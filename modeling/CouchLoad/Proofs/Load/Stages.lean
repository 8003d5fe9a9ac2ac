import CouchLoad.Proofs.Load.Partition
import CouchLoad.Proofs.Load.Tracking

/-!
# Stages of documents

Where nothing is dropped and every counter has an id of its own, nothing is refused either: each
write takes its document one stage further. A document that has come to a stage has the revisions
of all generations up to it, holds the fields of one rendering of its counter, and may have
conflicts of its current generation.
-/

namespace CouchLoad

/-- What a template is like that gives every counter a document of its own, or none at all. -/
structure Config.Uniform (c : Config) (ids : Nat → String) (renders : Nat → Bool) : Prop where
  /-- Rendering always succeeds or always fails. -/
  always : ∀ counter ∈ c.counters,
    if renders counter then ¬c.FailsToRender counter else ∀ d, ¬c.Renders counter d
  /-- The id depends on the counter alone. -/
  id_eq : ∀ counter ∈ c.counters, ∀ d, c.Renders counter d → d.id = ids counter
  ne_security : ∀ counter ∈ c.counters, ids counter ≠ "_security"
  attachments : ∀ counter ∈ c.counters, ∀ d, c.Renders counter d → d.attachments = []
  injective : Set.InjOn ids { counter | counter ∈ c.counters }

/-- A document of a counter that has come to a stage, with some conflicts. -/
structure StoredDocument.Staged (c : Config) (counter stage conflicts : Nat) (d : StoredDocument) :
    Prop where
  positive : 0 < stage
  body : ∃ rendered, c.Renders counter rendered ∧ d.body = rendered.fields
  generations : d.history.map (·.generation) = List.range' 1 stage
  last : d.history.getLast? = some d.rev
  conflicts_length : d.conflicts.length = conflicts
  conflicts_generation : ∀ rev ∈ d.conflicts, rev.generation = stage

/-- The document of a counter in a share has come to a stage. At stage zero there is none. -/
def Share.Staged (c : Config) (ids : Nat → String) (g : Share) (counter stage conflicts : Nat) :
    Prop :=
  match g.documents (ids counter) with
  | none => stage = 0
  | some d => d.Staged c counter stage conflicts

namespace StoredDocument.Staged

variable {c : Config} {counter stage conflicts : Nat} {d : StoredDocument}

lemma generation (h : d.Staged c counter stage conflicts) : d.rev.generation = stage := by
  have hlast := congrArg List.getLast? h.generations
  rw [List.getLast?_map, h.last, List.getLast?_range'] at hlast
  have := h.positive
  rw [if_neg (by omega)] at hlast
  simp only [Option.map_some, Option.some.injEq] at hlast
  omega

/-- A conflict of the current generation. -/
lemma addConflict (h : d.Staged c counter stage conflicts) {rev : Revision}
    (hrev : rev.generation = d.rev.generation)
    (hadded : (d.addConflict rev).conflicts = d.conflicts ++ [rev]) :
    (d.addConflict rev).Staged c counter stage (conflicts + 1) where
  positive := h.positive
  body := by
    rw [body_addConflict]
    exact h.body
  generations := by
    rw [history_addConflict]
    exact h.generations
  last := by
    rw [history_addConflict, rev_addConflict]
    exact h.last
  conflicts_length := by
    rw [hadded, List.length_append, h.conflicts_length, List.length_singleton]
  conflicts_generation other hother := by
    rw [hadded, List.mem_append, List.mem_singleton] at hother
    rcases hother with hother | rfl
    · exact h.conflicts_generation other hother
    · exact hrev.trans h.generation

end StoredDocument.Staged

namespace Share

variable {c : Config} {ids : Nat → String} {g g' : Share} {counter stage conflicts : Nat}

lemma Staged.congr (h : g.Staged c ids counter stage conflicts)
    (hdocuments : g'.documents (ids counter) = g.documents (ids counter)) :
    g'.Staged c ids counter stage conflicts := by
  unfold Staged at h ⊢
  rwa [hdocuments]

lemma staged_zero (h : g.documents (ids counter) = none) : g.Staged c ids counter 0 conflicts := by
  simp [Staged, h]

lemma Staged.exists (h : g.Staged c ids counter stage conflicts) (hpositive : 0 < stage) :
    ∃ d, g.documents (ids counter) = some d ∧ d.Staged c counter stage conflicts := by
  unfold Staged at h
  split at h
  · omega
  · rename_i d hd
    exact ⟨d, hd, h⟩

lemma staged_of_some {d : StoredDocument} (hd : g.documents (ids counter) = some d)
    (h : d.Staged c counter stage conflicts) : g.Staged c ids counter stage conflicts := by
  unfold Staged
  rwa [hd]

/-- A revision takes a document to its next stage. -/
lemma Staged.succeeds (h : g.Staged c ids counter stage 0) {stored : StoredDocument}
    (hsucceeds : stored.Succeeds (g.documents (ids counter))) {rendered : Document}
    (hrendered : c.Renders counter rendered) (hbody : stored.body = rendered.fields) :
    stored.Staged c counter (stage + 1) 0 := by
  unfold Staged at h
  cases hold : g.documents (ids counter) with
  | none =>
    rw [hold] at h hsucceeds
    simp only at h
    subst h
    refine ⟨Nat.one_pos, ⟨rendered, hrendered, hbody⟩, ?_, ?_, ?_, ?_⟩
    · rw [hsucceeds.history, Option.map_none, Option.getD_none, List.nil_append, List.map_singleton,
        hsucceeds.generation]
      rfl
    · rw [hsucceeds.history]
      rfl
    · rw [hsucceeds.conflicts]
      rfl
    · rw [hsucceeds.conflicts]
      intro rev hrev
      cases hrev
  | some old =>
    rw [hold] at h hsucceeds
    simp only at h
    have hnone : stored.conflicts = [] := by
      rw [hsucceeds.conflicts]
      exact List.length_eq_zero_iff.1 h.conflicts_length
    have hgeneration : stored.rev.generation = stage + 1 := by
      rw [hsucceeds.generation, Option.map_some, Option.getD_some, h.generation]
    refine ⟨Nat.succ_pos _, ⟨rendered, hrendered, hbody⟩, ?_, ?_, by rw [hnone]; rfl, ?_⟩
    · rw [hsucceeds.history, Option.map_some, Option.getD_some, List.map_append, h.generations,
        List.map_singleton, hgeneration, List.range'_concat]
      simp [Nat.add_comm]
    · rw [hsucceeds.history, List.getLast?_append]
      rfl
    · rw [hnone]
      intro rev hrev
      cases hrev

end Share

/-! ### Batches that are accepted as a whole -/

namespace Share

variable {contested : String → Prop} {g g' : Share} {batch : List Document}
  {revs : List (Option Revision)}

/-- A batch is accepted as a whole if every document names what the share says, no id occurs twice,
and nobody else may write these ids. -/
lemma Written.all_accepted (h : g.Written contested batch revs g')
    (hcurrent : ∀ d ∈ batch, (g.current d.id).map Revision.display = d.rev)
    (hown : ∀ d ∈ batch, ¬contested d.id) (hnodup : (batch.map (·.id)).Nodup) :
    revs.length = batch.length ∧ (∀ rev ∈ revs, rev.isSome) ∧
      ∀ d ∈ batch, ∃ stored, g'.documents d.id = some stored ∧
        stored.Succeeds (g.documents d.id) ∧ stored.body = d.fields := by
  induction h with
  | nil g => exact ⟨rfl, by simp, by simp⟩
  | @accept g g' d ds revs stored current succeeds body rest ih =>
    rw [List.map_cons, List.nodup_cons] at hnodup
    have hne : ∀ e ∈ ds, e.id ≠ d.id := fun e he heq =>
      hnodup.1 (heq ▸ List.mem_map_of_mem he)
    obtain ⟨hlength, hsome, hdocuments⟩ := ih
      (fun e he => by
        rw [current_write_of_ne _ (hne e he)]
        exact hcurrent e (List.mem_cons_of_mem _ he))
      (fun e he => hown e (List.mem_cons_of_mem _ he)) hnodup.2
    refine ⟨by rw [List.length_cons, List.length_cons, hlength], ?_, ?_⟩
    · intro rev hrev
      rcases List.mem_cons.1 hrev with rfl | hrev
      · rfl
      · exact hsome rev hrev
    · intro e he
      rcases List.mem_cons.1 he with rfl | he
      · refine ⟨stored, ?_, succeeds, body⟩
        rw [rest.documents_of_notMem hnodup.1, documents_write_self]
      · obtain ⟨stored', hstored', hsucceeds', hbody'⟩ := hdocuments e he
        rw [documents_write_of_ne _ (hne e he)] at hsucceeds'
        exact ⟨stored', hstored', hsucceeds', hbody'⟩
  | @refuse g g' d ds revs reason rest ih =>
    rcases reason with hne | hcontested
    · exact absurd (hcurrent d List.mem_cons_self) hne
    · exact absurd hcontested (hown d List.mem_cons_self)

/-- Conflicts leave all documents alone that they do not name. -/
lemma Conflicted.documents_of_notMem {distinct : Prop} {entries : List (Document × Revision)}
    (h : g.Conflicted distinct entries g') {id : String}
    (hid : id ∉ entries.map fun entry => entry.1.id) : g'.documents id = g.documents id := by
  induction h with
  | nil g => rfl
  | cons stored held added sibling others ih =>
    rw [List.map_cons, List.mem_cons, not_or] at hid
    rw [ih hid.2, documents_conflict_of_ne _ hid.1]

/-- Every document gets one conflict of its current generation, if no id occurs twice. -/
lemma Conflicted.each {distinct : Prop} {entries : List (Document × Revision)}
    (h : g.Conflicted distinct entries g') (hdistinct : distinct)
    (hnodup : (entries.map fun entry => entry.1.id).Nodup) :
    ∀ entry ∈ entries, ∃ stored rev, g.documents entry.1.id = some stored ∧
      g'.documents entry.1.id = some (stored.addConflict rev) ∧
      rev.generation = stored.rev.generation ∧
      (stored.addConflict rev).conflicts = stored.conflicts ++ [rev] := by
  induction h with
  | nil g => simp
  | @cons g g' d rev rest stored held added sibling others ih =>
    rw [List.map_cons, List.nodup_cons] at hnodup
    intro entry hentry
    rcases List.mem_cons.1 hentry with rfl | hentry
    · obtain ⟨u, rfl⟩ := sibling
      refine ⟨stored, stored.rev.conflictingSibling u, held, ?_, rfl, added hdistinct⟩
      rw [others.documents_of_notMem hnodup.1, documents_conflict_self, held]
      rfl
    · have hne : entry.1.id ≠ d.id := fun heq =>
        hnodup.1 (heq ▸ List.mem_map_of_mem (f := fun entry => entry.1.id) hentry)
      obtain ⟨stored', rev', hstored', hrest⟩ := ih hnodup.2 entry hentry
      rw [documents_conflict_of_ne _ hne] at hstored'
      exact ⟨stored', rev', hstored', hrest⟩

end Share

/-- Results that are all revisions are all counted as writes. -/
lemma Progress.stats_recordResults {batch : List Document} {results : List BulkResult}
    (p : Progress) (hlength : results.length = batch.length)
    (hall : ∀ r ∈ results, r.revision?.isSome) :
    (p.recordResults batch results).stats =
      { p.stats with documentWrites := p.stats.documentWrites + batch.length } := by
  induction batch generalizing p results with
  | nil => rfl
  | cons d ds ih =>
    cases results with
    | nil => cases hlength
    | cons r rs =>
      obtain ⟨rev, hrev⟩ := Option.isSome_iff_exists.1 (hall r List.mem_cons_self)
      rw [recordResults, ih _ (Nat.succ.inj hlength) fun r hr => hall r (List.mem_cons_of_mem _ hr)]
      simp only [recordResult, hrev, count, List.length_cons, Nat.add_assoc, Nat.add_comm 1]

end CouchLoad
