import CouchLoad.Proofs.Load.Rules

/-!
# What a worker knows about its documents

A worker that writes batches remembers the current revision of every document that it has created,
and of no other document. It counts the revisions that it has written and the conflicts that it has
added. All this stays true whatever becomes of a batch: entries may be refused, batches and
conflicts may be lost, and ids may occur more than once.
-/

namespace CouchLoad

open Session

/-! ### Generations -/

namespace Share

/-- The generation of a document of the share; zero if there is none. -/
def generation (g : Share) (id : String) : Nat :=
  ((g.current id).map (·.generation)).getD 0

variable {contested : String → Prop} {g g' : Share} {batch : List Document}
  {revs : List (Option Revision)}

lemma generation_write_self {id : String} {d : StoredDocument} (h : d.Succeeds (g.documents id)) :
    (g.write id d).generation id = g.generation id + 1 := by
  rw [generation, current_write_self, Option.map_some, Option.getD_some, h.generation]
  simp [generation, current, Function.comp_def]

/-- A batch leaves all documents alone whose ids do not occur in it. -/
lemma Written.documents_of_notMem (h : g.Written contested batch revs g') {id : String}
    (hid : id ∉ batch.map (·.id)) : g'.documents id = g.documents id := by
  induction h with
  | nil g => rfl
  | accept stored current succeeds body rest ih =>
    rw [List.map_cons, List.mem_cons, not_or] at hid
    rw [ih hid.2, documents_write_of_ne _ hid.1]
  | refuse reason rest ih =>
    rw [List.map_cons, List.mem_cons, not_or] at hid
    exact ih hid.2

lemma Written.generation_of_notMem (h : g.Written contested batch revs g') {id : String}
    (hid : id ∉ batch.map (·.id)) : g'.generation id = g.generation id := by
  simp [generation, current, h.documents_of_notMem hid]

/-- A batch in which every id occurs once takes no document further than one generation. -/
lemma Written.generation_le (h : g.Written contested batch revs g')
    (hnodup : (batch.map (·.id)).Nodup) (id : String) :
    g'.generation id ≤ g.generation id + 1 := by
  induction h with
  | nil g => exact Nat.le_succ _
  | @accept g g' d ds revs stored current succeeds body rest ih =>
    rw [List.map_cons, List.nodup_cons] at hnodup
    by_cases hid : id = d.id
    · subst hid
      rw [rest.generation_of_notMem hnodup.1, generation_write_self succeeds]
    · have := ih hnodup.2
      simpa [generation, current_write_of_ne _ hid] using this
  | refuse reason rest ih =>
    rw [List.map_cons, List.nodup_cons] at hnodup
    exact ih hnodup.2

/-- Every conflict counts. -/
lemma Conflicted.counts {distinct : Prop} {entries : List (Document × Revision)}
    (h : g.Conflicted distinct entries g') :
    g'.writes = g.writes ∧ g'.conflicts = g.conflicts + entries.length := by
  induction h with
  | nil g => exact ⟨rfl, rfl⟩
  | cons stored held added sibling others ih =>
    rw [writes_conflict, conflicts_conflict] at ih
    exact ⟨ih.1, by rw [ih.2, List.length_cons]; omega⟩

end Share

/-! ### Tracking and counting -/

namespace Progress

variable {contested : String → Prop} {p : Progress} {g g' : Share}

/-- The revisions that are remembered are the current ones of the share. -/
def Tracks (p : Progress) (g : Share) : Prop :=
  ∀ id, p.tracker.get? id = g.current id

/-- The counts are those of the share. -/
structure Counts (p : Progress) (g : Share) : Prop where
  writes : p.stats.documentWrites + p.stats.attachmentWrites = g.writes
  conflicts : p.stats.conflictWrites = g.conflicts

/-- Nothing but the tracker and the counts is changed. -/
structure Keeps (p q : Progress) : Prop where
  passes : q.passes = p.passes
  batches : q.batches = p.batches
  inFlight : q.inFlight = p.inFlight

lemma recordResult_keeps (p : Progress) (d : Document) (r : BulkResult) :
    p.Keeps (p.recordResult d r) := by
  unfold recordResult
  split <;> exact ⟨rfl, rfl, rfl⟩

lemma recordResults_keeps (p : Progress) (batch : List Document) (results : List BulkResult) :
    p.Keeps (p.recordResults batch results) := by
  induction batch generalizing p results with
  | nil => exact ⟨rfl, rfl, rfl⟩
  | cons d ds ih =>
    cases results with
    | nil => exact ⟨rfl, rfl, rfl⟩
    | cons r rs =>
      have h₁ := recordResult_keeps p d r
      have h₂ := ih (p.recordResult d r) rs
      exact ⟨h₂.passes.trans h₁.passes, h₂.batches.trans h₁.batches,
        h₂.inFlight.trans h₁.inFlight⟩

/-- Result by result, the tracker follows the share. -/
lemma tracks_recordResults {batch : List Document} {results : List BulkResult}
    (h : g.Written contested batch (results.map BulkResult.revision?) g') (hp : p.Tracks g) :
    (p.recordResults batch results).Tracks g' := by
  generalize hrevs : results.map BulkResult.revision? = revs at h
  induction h generalizing p results with
  | nil g => exact hp
  | @accept g g' d ds revs stored current succeeds body rest ih =>
    obtain ⟨r, rs, rfl, hr, hrs⟩ := List.map_eq_cons_iff.1 hrevs
    refine ih ?_ hrs
    intro id
    simp only [recordResult, hr, count]
    rw [Table.get?_insert]
    split
    · rename_i heq
      rw [← heq, Share.current_write_self]
    · rename_i hne
      rw [Share.current_write_of_ne _ (Ne.symm hne), hp id]
  | @refuse g g' d ds revs reason rest ih =>
    obtain ⟨r, rs, rfl, hr, hrs⟩ := List.map_eq_cons_iff.1 hrevs
    refine ih ?_ hrs
    simp only [recordResult, hr]
    exact hp

/-- Result by result, the counts follow the share. -/
lemma counts_recordResults {batch : List Document} {results : List BulkResult}
    (h : g.Written contested batch (results.map BulkResult.revision?) g') (hp : p.Counts g) :
    (p.recordResults batch results).Counts g' := by
  generalize hrevs : results.map BulkResult.revision? = revs at h
  induction h generalizing p results with
  | nil g => exact hp
  | @accept g g' d ds revs stored current succeeds body rest ih =>
    obtain ⟨r, rs, rfl, hr, hrs⟩ := List.map_eq_cons_iff.1 hrevs
    refine ih ?_ hrs
    have := hp.writes
    refine ⟨?_, ?_⟩ <;> simp only [recordResult, hr, count]
    · rw [Share.writes_write]
      omega
    · exact hp.conflicts
  | @refuse g g' d ds revs reason rest ih =>
    obtain ⟨r, rs, rfl, hr, hrs⟩ := List.map_eq_cons_iff.1 hrevs
    refine ih ?_ hrs
    simp only [recordResult, hr]
    exact ⟨hp.writes, hp.conflicts⟩

/-- Where the generations of documents can be while a pass is under way: no document is further
than the passes say, and those that still have to be written in this pass are behind. -/
structure Behind (ids : Nat → String) (p : Progress) (g : Share) (batch : List Document)
    (counters : List Nat) : Prop where
  atMost : ∀ id, g.generation id ≤ p.passes + if p.batches = 0 then 0 else 1
  waiting : ∀ d ∈ batch, g.generation d.id ≤ p.passes
  left : ∀ counter ∈ counters, g.generation (ids counter) ≤ p.passes
  nodup : (batch.map (·.id) ++ counters.map ids).Nodup

namespace Behind

variable {ids : Nat → String} {batch : List Document} {counter : Nat} {counters : List Nat}

lemma skip (h : p.Behind ids g batch (counter :: counters)) (source : Entropy.Source) (n : Nat) :
    Behind ids ({ p with source }.failDocuments n) g batch counters where
  atMost := h.atMost
  waiting := h.waiting
  left n hn := h.left n (List.mem_cons_of_mem _ hn)
  nodup := h.nodup.sublist (List.Sublist.append_left (List.sublist_cons_self ..) _)

lemma add (h : p.Behind ids g batch (counter :: counters)) {d : Document}
    (hd : d.id = ids counter) (rev : Option String) (source : Entropy.Source) :
    Behind ids { p with source } g (batch ++ [{ d with rev }]) counters where
  atMost := h.atMost
  waiting e he := by
    rcases List.mem_append.1 he with he | he
    · exact h.waiting e he
    · rw [List.mem_singleton.1 he]
      show g.generation d.id ≤ _
      rw [hd]
      exact h.left counter List.mem_cons_self
  left n hn := h.left n (List.mem_cons_of_mem _ hn)
  nodup := by
    have := h.nodup
    rw [List.map_append, List.append_assoc, List.map_singleton, hd]
    exact this

/-- Once its batch is lost a pass goes on. -/
lemma lose (h : p.Behind ids g batch counters) (n : Nat) (time : Nat) :
    Behind ids ((p.launch.land.sample .document time).failDocuments n) g [] counters where
  atMost id := by
    have := h.atMost id
    have hpasses : ((p.launch.land.sample .document time).failDocuments n).passes = p.passes := rfl
    have hbatches : ((p.launch.land.sample .document time).failDocuments n).batches ≠ 0 :=
      Nat.succ_ne_zero _
    rw [hpasses, if_neg hbatches]
    split at this <;> omega
  waiting d hd := absurd hd List.not_mem_nil
  left := h.left
  nodup := h.nodup.sublist (List.sublist_append_right ..)

/-- Once its batch is written a pass goes on. -/
lemma write (h : p.Behind ids g batch counters) {results : List BulkResult}
    (hg : g.Written contested batch (results.map BulkResult.revision?) g') (time : Nat) :
    Behind ids ((p.launch.land.sample .document time).recordResults batch results) g' []
      counters := by
  have hkeeps := recordResults_keeps (p.launch.land.sample .document time) batch results
  have hpasses := hkeeps.passes
  have hbatches := hkeeps.batches
  have hnodup := List.nodup_append.1 h.nodup
  refine ⟨fun id => ?_, fun d hd => absurd hd List.not_mem_nil, fun counter hcounter => ?_,
    hnodup.2.1⟩
  · rw [hpasses, hbatches]
    show _ ≤ p.passes + 1
    by_cases hid : id ∈ batch.map (·.id)
    · obtain ⟨d, hd, rfl⟩ := List.mem_map.1 hid
      exact Nat.le_trans (hg.generation_le hnodup.1 _) (Nat.succ_le_succ (h.waiting d hd))
    · rw [hg.generation_of_notMem hid]
      have := h.atMost id
      split at this <;> omega
  · have hid : ids counter ∉ batch.map (·.id) := fun hmem =>
      hnodup.2.2 _ hmem _ (List.mem_map_of_mem hcounter) rfl
    rw [hpasses, hg.generation_of_notMem hid]
    exact h.left counter hcounter

end Behind

end Progress

end CouchLoad
