import CouchLoad.Proofs.Load.Completion

/-!
# Workers that complete their batches

Every pass takes the documents of all counters that can be rendered one stage further; in the last
pass each of them gets its conflicts as well. During a pass some counters are finished, some wait
for their batch to be written, and some are left.
-/

namespace CouchLoad

open Session

namespace Config

/-- What a configuration that is accepted is like. -/
lemma bounds_of_validate {c : Config} (h : c.validate = .ok ()) :
    c.workers ≠ 0 ∧ c.revisions ≠ 0 ∧ (c.usesBulk = false → c.conflicts = 0) := by
  have hfault : c.fault? = none := by
    unfold validate at h
    split at h
    · cases h
    · assumption
  unfold fault? at hfault
  split_ifs at hfault with _ hworkers _ hrevisions hconflicts
  refine ⟨hworkers, hrevisions, fun hbulk => ?_⟩
  rw [hbulk] at hconflicts
  simpa using hconflicts

end Config

namespace Worker

/-- The conflicts of a document that has come to a stage: they are added at the last one. -/
def conflictsAt (c : Config) (stage : Nat) : Nat :=
  if stage = c.revisions then c.conflicts else 0

/-- A batch that waits: one document for each counter that waits and can be rendered, on top of the
revision that the share says. -/
structure Waits (c : Config) (ids : Nat → String) (renders : Nat → Bool) (waiting : List Nat)
    (batch : List Document) (g : Share) : Prop where
  ids_eq : batch.map (·.id) = (waiting.filter renders).map ids
  current : ∀ d ∈ batch, d.rev = (g.current d.id).map Revision.display
  wellFormed : ∀ d ∈ batch, d.WellFormed
  made : ∀ d ∈ batch, ∃ counter ∈ waiting, d.id = ids counter ∧
    ∃ source, c.Renders counter source ∧ d.fields = source.fields

/-- What holds in the middle of a pass, after a number of passes that are done. -/
structure Passing (c : Config) (ids : Nat → String) (renders : Nat → Bool) (w : Worker)
    (done : Nat) (finished waiting left : List Nat) (batch : List Document) (g : Share)
    (link : Link Progress) : Prop where
  split : w.partition.counters = finished ++ (waiting ++ left)
  tracks : link.owner.Tracks g
  ahead : ∀ counter ∈ finished, renders counter →
    g.Staged c ids counter (done + 1) (conflictsAt c (done + 1))
  behind : ∀ counter ∈ waiting ++ left, renders counter → g.Staged c ids counter done 0
  only : g.Only ids renders w.partition.counters
  waits : Waits c ids renders waiting batch g
  stats : link.owner.stats = Stats.counted
    (done * rendered renders w.partition.counters + rendered renders finished)
    (done * unrendered renders w.partition.counters + unrendered renders (finished ++ waiting))
    (conflictsAt c (done + 1) * rendered renders finished)
  reconnects : link.reconnects = 0

/-- What holds between passes. -/
structure Rested (c : Config) (ids : Nat → String) (renders : Nat → Bool) (w : Worker)
    (done : Nat) (g : Share) (link : Link Progress) : Prop where
  tracks : link.owner.Tracks g
  staged : ∀ counter ∈ w.partition.counters, renders counter →
    g.Staged c ids counter done (conflictsAt c done)
  only : g.Only ids renders w.partition.counters
  stats : link.owner.stats = Stats.counted (done * rendered renders w.partition.counters)
    (done * unrendered renders w.partition.counters)
    (conflictsAt c done * rendered renders w.partition.counters)
  reconnects : link.reconnects = 0

variable {c : Config} {ids : Nat → String} {renders : Nat → Bool} {L : Site} {w : Worker}
  {place done : Nat} {finished waiting left : List Nat} {batch : List Document} {g g' : Share}
  {link : Link Progress}

lemma rendered_append (l l' : List Nat) :
    rendered renders (l ++ l') = rendered renders l + rendered renders l' :=
  List.countP_append

lemma Waits.length_eq (h : Waits c ids renders waiting batch g) :
    batch.length = rendered renders waiting := by
  have := congrArg List.length h.ids_eq
  rw [List.length_map, List.length_map] at this
  rw [this, rendered, List.countP_eq_length_filter]

lemma Passing.nodup (h : Passing c ids renders w done finished waiting left batch g link) :
    (finished ++ (waiting ++ left)).Nodup := by
  rw [← h.split]
  exact Config.nodup_partition

lemma Passing.mem_counters (h : Passing c ids renders w done finished waiting left batch g link)
    {counter : Nat} (hcounter : counter ∈ finished ∨ counter ∈ waiting ∨ counter ∈ left) :
    counter ∈ w.partition.counters := by
  rw [h.split]
  simpa using hcounter

/-- The ids of a batch are different. -/
lemma Passing.nodup_ids (h : Passing c ids renders w done finished waiting left batch g link)
    (hc : c.Uniform ids renders) (hw : w.Posted c ids L place) : (batch.map (·.id)).Nodup := by
  have hwaiting : waiting.Nodup :=
    (List.nodup_append.1 (List.nodup_append.1 h.nodup).2.1).1
  rw [h.waits.ids_eq]
  refine List.Nodup.map_on ?_ (hwaiting.filter _)
  intro m hm n hn heq
  have hm' := h.mem_counters (Or.inr (Or.inl (List.mem_of_mem_filter hm)))
  have hn' := h.mem_counters (Or.inr (Or.inl (List.mem_of_mem_filter hn)))
  exact hw.id_injective hc hm' hn' heq

/-- A batch holds no document of a counter that does not wait. -/
lemma Passing.notMem_ids (h : Passing c ids renders w done finished waiting left batch g link)
    (hc : c.Uniform ids renders) (hw : w.Posted c ids L place) {counter : Nat}
    (hcounter : counter ∈ finished ∨ counter ∈ left) : ids counter ∉ batch.map (·.id) := by
  rw [h.waits.ids_eq]
  intro hmem
  obtain ⟨other, hother, heq⟩ := List.mem_map.1 hmem
  have hwaiting := List.mem_of_mem_filter hother
  have hsame : other = counter := hw.id_injective hc (h.mem_counters (Or.inr (Or.inl hwaiting)))
    (h.mem_counters (hcounter.imp_right Or.inr)) heq
  subst hsame
  have hnodup := List.nodup_append.1 h.nodup
  rcases hcounter with hfinished | hleft
  · exact hnodup.2.2 other hfinished other (List.mem_append_left _ hwaiting) rfl
  · exact (List.nodup_append.1 hnodup.2.1).2.2 other hwaiting other hleft rfl

/-- The document of a counter that waits and can be rendered is in the batch. -/
lemma Waits.exists_mem (h : Waits c ids renders waiting batch g) {counter : Nat}
    (hcounter : counter ∈ waiting) (hrenders : renders counter = true) :
    ∃ d ∈ batch, d.id = ids counter := by
  have hmem : ids counter ∈ batch.map (·.id) := by
    rw [h.ids_eq]
    exact List.mem_map_of_mem (List.mem_filter.2 ⟨hcounter, hrenders⟩)
  exact List.mem_map.1 hmem

/-! ### Passes start and end -/

lemma Rested.start (h : Rested c ids renders w done g link) (hdone : done < c.revisions) :
    Passing c ids renders w done [] [] w.partition.counters [] g link where
  split := rfl
  tracks := h.tracks
  ahead counter hcounter := absurd hcounter List.not_mem_nil
  behind counter hcounter hrenders := by
    have := h.staged counter hcounter hrenders
    rwa [conflictsAt, if_neg (Nat.ne_of_lt hdone)] at this
  only := h.only
  waits := ⟨rfl, by simp, by simp, by simp⟩
  stats := by
    rw [h.stats]
    simp [Stats.counted, conflictsAt, Nat.ne_of_lt hdone, rendered, unrendered]
  reconnects := h.reconnects

lemma Passing.finish (h : Passing c ids renders w done finished waiting [] [] g link) :
    Rested c ids renders w (done + 1) g (link.with link.owner.finishPass) := by
  have hnone : rendered renders waiting = 0 := h.waits.length_eq.symm
  have hwaiting : ∀ counter ∈ waiting, renders counter = false := by
    simpa [rendered, List.countP_eq_zero] using hnone
  have hsplit : w.partition.counters = finished ++ waiting := by
    rw [h.split, List.append_nil]
  refine ⟨h.tracks, ?_, h.only, ?_, h.reconnects⟩
  · intro counter hcounter hrenders
    rw [hsplit, List.mem_append] at hcounter
    rcases hcounter with hcounter | hcounter
    · exact h.ahead counter hcounter hrenders
    · rw [hwaiting counter hcounter] at hrenders
      cases hrenders
  · have hrendered : rendered renders w.partition.counters = rendered renders finished := by
      rw [hsplit, rendered_append, hnone, Nat.add_zero]
    show link.owner.stats = _
    rw [h.stats, ← hsplit, hrendered, Nat.succ_mul, Nat.succ_mul]

/-! ### Batches -/

/-- Writing a batch takes its documents one stage further, and no other document. -/
lemma Passing.write (h : Passing c ids renders w done finished waiting left batch g link)
    (hc : c.Uniform ids renders) (hw : w.Posted c ids L place) {results : List BulkResult}
    (hwritten : g.Written (L.Contested place) batch (results.map BulkResult.revision?) g') :
    (∀ counter ∈ waiting, renders counter → g'.Staged c ids counter (done + 1) 0) ∧
      (∀ id, id ∉ batch.map (·.id) → g'.documents id = g.documents id) ∧
      results.length = batch.length ∧ ∀ r ∈ results, r.revision?.isSome := by
  obtain ⟨hlength, hsome, hdocuments⟩ := hwritten.all_accepted
    (fun d hd => (h.waits.current d hd).symm)
    (fun d hd => by
      obtain ⟨counter, hcounter, hid, -⟩ := h.waits.made d hd
      rw [hid]
      exact hw.own counter (h.mem_counters (Or.inr (Or.inl hcounter)))) (h.nodup_ids hc hw)
  refine ⟨?_, fun id hid => hwritten.documents_of_notMem hid, by simpa using hlength, ?_⟩
  · intro counter hcounter hrenders
    obtain ⟨d, hd, hid⟩ := h.waits.exists_mem hcounter hrenders
    obtain ⟨stored, hstored, hsucceeds, hbody⟩ := hdocuments d hd
    obtain ⟨other, hother, hid', source, hsource, hfields⟩ := h.waits.made d hd
    have hsame : counter = other :=
      hw.id_injective hc (h.mem_counters (Or.inr (Or.inl hcounter)))
        (h.mem_counters (Or.inr (Or.inl hother))) (hid.symm.trans hid')
    subst hsame
    rw [hid] at hstored hsucceeds
    have hbehind := h.behind counter (List.mem_append_left _ hcounter) hrenders
    exact Share.staged_of_some hstored
      (hbehind.succeeds hsucceeds hsource (hbody.trans hfields))
  · intro r hr
    exact hsome _ (List.mem_map_of_mem hr)

/-- A pass after a batch, if the batch has brought its documents to the next stage. -/
lemma Passing.advance (h : Passing c ids renders w done finished waiting left batch g link)
    (hc : c.Uniform ids renders) (hw : w.Posted c ids L place) {link' : Link Progress}
    (hstaged : ∀ counter ∈ waiting, renders counter →
      g'.Staged c ids counter (done + 1) (conflictsAt c (done + 1)))
    (hframe : ∀ id, id ∉ batch.map (·.id) → g'.documents id = g.documents id)
    (htracks : link'.owner.Tracks g')
    (hstats : link'.owner.stats = { link.owner.stats with
      documentWrites := link.owner.stats.documentWrites + batch.length
      conflictWrites := link.owner.stats.conflictWrites +
        conflictsAt c (done + 1) * batch.length })
    (hreconnects : link'.reconnects = 0) :
    Passing c ids renders w done (finished ++ waiting) [] left [] g' link' where
  split := by rw [h.split, List.nil_append, List.append_assoc]
  tracks := htracks
  ahead counter hcounter hrenders := by
    rcases List.mem_append.1 hcounter with hcounter | hcounter
    · exact (h.ahead counter hcounter hrenders).congr
        (hframe _ (h.notMem_ids hc hw (Or.inl hcounter)))
    · exact hstaged counter hcounter hrenders
  behind counter hcounter hrenders := by
    rw [List.nil_append] at hcounter
    exact (h.behind counter (List.mem_append_right _ hcounter) hrenders).congr
      (hframe _ (h.notMem_ids hc hw (Or.inr hcounter)))
  only id d hd := by
    by_cases hid : id ∈ batch.map (·.id)
    · rw [h.waits.ids_eq] at hid
      obtain ⟨counter, hcounter, rfl⟩ := List.mem_map.1 hid
      obtain ⟨hcounter, hrenders⟩ := List.mem_filter.1 hcounter
      exact ⟨counter, h.mem_counters (Or.inr (Or.inl hcounter)), hrenders, rfl⟩
    · rw [hframe id hid] at hd
      exact h.only id d hd
  waits := ⟨rfl, by simp, by simp, by simp⟩
  stats := by
    rw [hstats, h.stats, h.waits.length_eq, List.append_nil, rendered_append]
    simp only [Stats.counted, Nat.mul_add, Nat.add_assoc]
  reconnects := hreconnects

/-- A batch that has been written: its documents are one stage further, and the worker knows. -/
structure Flushed (c : Config) (ids : Nat → String) (renders : Nat → Bool) (done : Nat)
    (waiting : List Nat) (batch : List Document) (g : Share) (stats : Stats) (g' : Share)
    (link' : Link Progress) : Prop where
  staged : ∀ counter ∈ waiting, renders counter → g'.Staged c ids counter (done + 1) 0
  frame : ∀ id, id ∉ batch.map (·.id) → g'.documents id = g.documents id
  tracks : link'.owner.Tracks g'
  stats : link'.owner.stats =
    { stats with documentWrites := stats.documentWrites + batch.length }
  reconnects : link'.reconnects = 0

lemma safe_completeFlush {pass : Nat} (hc : c.Uniform ids renders) (hw : w.Posted c ids L place)
    (h : Passing c ids renders w done finished waiting left batch g link) :
    Safe L.discipline (fun _ _ => True) place (w.flush pass batch)
      (fun _ g' link' => Flushed c ids renders done waiting batch g link.owner.stats g' link') g
      link := by
  refine safe_flush hw.db_eq hw.member (fun _ _ _ => trivial) ?_ ?_ ?_
  · intro d hd
    obtain ⟨counter, hcounter, hid, -⟩ := h.waits.made d hd
    refine ⟨⟨h.waits.wellFormed d hd, ?_⟩, ?_⟩
    · rw [h.waits.current d hd]
      cases hdoc : g.documents d.id <;> simp [Share.current, hdoc]
    · rw [hid]
      exact hw.territory counter (h.mem_counters (Or.inr (Or.inl hcounter)))
  · intro n time hsteady
    exact absurd hw.steady hsteady
  · intro results g' n time hn hwritten
    obtain ⟨hstaged, hframe, hlength, hall⟩ := h.write hc hw hwritten
    refine ⟨trivial, hstaged, hframe, ?_, ?_, ?_⟩
    · have htracks : (link.owner.launch.land.sample .document time).Tracks g := h.tracks
      exact Progress.tracks_recordResults hwritten htracks
    · exact Progress.stats_recordResults (link.owner.launch.land.sample .document time) hlength hall
    · exact (hn.resolve_right (not_not_intro hw.steady)).trans h.reconnects

/-- The worker knows all documents of a batch that has been written. -/
lemma Flushed.known_eq {stats : Stats}
    (h : Flushed c ids renders done waiting batch g stats g' link)
    (hwaits : Waits c ids renders waiting batch g) :
    Conflict.known link.owner.tracker batch = batch := by
  refine List.filter_eq_self.2 fun d hd => ?_
  have hmem : d.id ∈ batch.map (·.id) := List.mem_map_of_mem hd
  rw [hwaits.ids_eq] at hmem
  obtain ⟨counter, hcounter, hid⟩ := List.mem_map.1 hmem
  obtain ⟨hcounter, hrenders⟩ := List.mem_filter.1 hcounter
  obtain ⟨stored, hstored, -⟩ := (h.staged counter hcounter hrenders).exists (Nat.succ_pos _)
  rw [h.tracks d.id, ← hid, Share.current, hstored]
  rfl

/-- A round of conflicts adds one to every document of a batch, and to no other document. -/
lemma Waits.conflicted (h : Waits c ids renders waiting batch g)
    (hnodup : (batch.map (·.id)).Nodup) {distinct : Prop} (hdistinct : distinct) {conflicts : Nat}
    {g₁ g₂ : Share} {entries : List (Document × Revision)}
    (hentries : entries.map Prod.fst = batch) (hconflicted : g₁.Conflicted distinct entries g₂)
    (hstaged : ∀ counter ∈ waiting, renders counter →
      g₁.Staged c ids counter (done + 1) conflicts) :
    (∀ counter ∈ waiting, renders counter →
      g₂.Staged c ids counter (done + 1) (conflicts + 1)) ∧
    ∀ id, id ∉ batch.map (·.id) → g₂.documents id = g₁.documents id := by
  have hentryIds : entries.map (fun entry => entry.1.id) = batch.map (·.id) := by
    rw [← hentries, List.map_map]
    rfl
  have heach := hconflicted.each hdistinct (by rw [hentryIds]; exact hnodup)
  constructor
  · intro counter hcounter hrenders
    obtain ⟨d, hd, hid⟩ := h.exists_mem hcounter hrenders
    rw [← hentries] at hd
    obtain ⟨entry, hentry, rfl⟩ := List.mem_map.1 hd
    obtain ⟨stored, rev, hstored, hstored', hrev, hadded⟩ := heach entry hentry
    rw [hid] at hstored hstored'
    obtain ⟨old, hold, hstage⟩ := (hstaged counter hcounter hrenders).exists (Nat.succ_pos _)
    rw [hstored, Option.some.injEq] at hold
    subst hold
    exact Share.staged_of_some hstored' (hstage.addConflict hrev hadded)
  · intro id hid
    exact hconflicted.documents_of_notMem (by rw [hentryIds]; exact hid)

/-- Every document of a batch that has been written gets its conflicts. -/
lemma safe_completeConflicts (hw : w.Posted c ids L place)
    (h : Passing c ids renders w done finished waiting left batch g link)
    (hnodup : (batch.map (·.id)).Nodup) {stats : Stats} {g₁ : Share} {link₁ : Link Progress}
    (h₁ : Flushed c ids renders done waiting batch g stats g₁ link₁) :
    Safe L.discipline (fun _ _ => True) place (w.addConflicts batch)
      (fun _ g' link' =>
        (∀ counter ∈ waiting, renders counter →
          g'.Staged c ids counter (done + 1) c.conflicts) ∧
        (∀ id, id ∉ batch.map (·.id) → g'.documents id = g.documents id) ∧
        link'.owner.Tracks g' ∧
        link'.owner.stats = { stats with
          documentWrites := stats.documentWrites + batch.length
          conflictWrites := stats.conflictWrites + c.conflicts * batch.length } ∧
        link'.reconnects = 0) g₁ link₁ := by
  have hknown := h₁.known_eq h.waits
  apply (safe_logic L.calm).holds_addConflicts
  rw [hw.db_eq, hw.config_eq]
  refine (Conflict.safe_injectPasses (fun passes o g' => passes.length ≤ c.conflicts ∧
      (∀ counter ∈ waiting, renders counter →
        g'.Staged c ids counter (done + 1) (c.conflicts - passes.length)) ∧
      (∀ id, id ∉ batch.map (·.id) → g'.documents id = g.documents id) ∧
      o.written = (c.conflicts - passes.length) * batch.length ∧ o.failed = 0)
    (fun _ _ _ => trivial) h.waits.wellFormed
    (fun id rev hrev => (h₁.tracks id).symm.trans hrev) ?_ ?_ ?_ _ ?_).mono ?_
  · rintro passes o g' hnone ⟨-, -, hframe, hwritten, hfailed⟩
    rw [hknown] at hnone
    subst hnone
    refine ⟨Nat.zero_le _, ?_, hframe, by simpa using hwritten, hfailed⟩
    intro counter hcounter hrenders
    obtain ⟨d, hd, -⟩ := h.waits.exists_mem hcounter hrenders
    exact absurd hd List.not_mem_nil
  · intro pass passes o g' time hsteady
    exact absurd hw.steady hsteady
  · rintro pass passes o g' g'' entries time ⟨hlength, hstaged, hframe, hwritten, hfailed⟩ hentries
      hconflicted
    rw [hknown] at hentries ⊢
    rw [List.length_cons] at hlength hstaged hwritten
    have hcount : c.conflicts - passes.length = c.conflicts - (passes.length + 1) + 1 := by omega
    obtain ⟨hstaged', hframe'⟩ :=
      h.waits.conflicted hnodup hw.distinct hentries hconflicted hstaged
    rw [← hcount] at hstaged'
    refine ⟨by omega, hstaged', fun id hid => (hframe' id hid).trans (hframe id hid), ?_, hfailed⟩
    simp only [Conflict.Outcome.accept, Nat.sub_zero]
    rw [hwritten, hcount, Nat.succ_mul]
  · rw [List.length_range', Nat.sub_self, Nat.zero_mul]
    exact ⟨Nat.le_refl _, h₁.staged, h₁.frame, rfl, rfl⟩
  · rintro ⟨o, source⟩ g' link' ⟨⟨-, hstaged, hframe, hwritten, hfailed⟩, hcurrent, n, hn, rfl⟩
    simp only [List.length_nil, Nat.sub_zero] at hstaged hwritten
    refine ⟨hstaged, hframe, ?_, ?_, ?_⟩
    · intro id
      rw [hcurrent]
      exact h₁.tracks id
    · show { link₁.owner.stats with
        conflictWrites := link₁.owner.stats.conflictWrites + o.written
        conflictFailures := link₁.owner.stats.conflictFailures + o.failed } = _
      rw [h₁.stats, hwritten, hfailed]
      rfl
    · exact (hn.resolve_right (not_not_intro hw.steady)).trans h₁.reconnects

/-- Every batch that is submitted is brought to the next stage. -/
lemma safe_completeSubmit (hc : c.Uniform ids renders) (hw : w.Posted c ids L place)
    (h : Passing c ids renders w done finished waiting left batch g link) :
    Safe L.discipline (fun _ _ => True) place (w.submit (done + 1) batch)
      (fun _ g' link' => Passing c ids renders w done (finished ++ waiting) [] left [] g' link') g
      link := by
  refine safe_bind ((safe_completeFlush hc hw h).mono fun _ g₁ link₁ h₁ => ?_)
  rw [hw.config_eq]
  split
  · rename_i hlast
    have hconflicts : conflictsAt c (done + 1) = c.conflicts := by
      rw [conflictsAt, if_pos]
      simpa using (Bool.and_eq_true_iff.1 hlast).1
    apply (safe_completeConflicts hw h (h.nodup_ids hc hw) h₁).mono
    rintro _ g' link' ⟨hstaged, hframe, htracks, hstats, hreconnects⟩
    rw [← hconflicts] at hstaged hstats
    exact h.advance hc hw hstaged hframe htracks hstats hreconnects
  · rename_i hlast
    have hconflicts : conflictsAt c (done + 1) = 0 := by
      unfold conflictsAt
      split
      · rename_i heq
        simpa [heq] using hlast
      · rfl
    refine safe_pure (h.advance hc hw ?_ h₁.frame h₁.tracks ?_ h₁.reconnects)
    · rw [hconflicts]
      exact h₁.staged
    · rw [hconflicts, Nat.zero_mul, Nat.add_zero]
      exact h₁.stats

/-- A counter that cannot be rendered waits without a document. -/
lemma Passing.skip {counter : Nat} (source : Entropy.Source)
    (h : Passing c ids renders w done finished waiting (counter :: left) batch g link)
    (hrenders : renders counter = false) :
    Passing c ids renders w done finished (waiting ++ [counter]) left batch g
      (link.with ({ link.owner with source }.failDocuments 1)) where
  split := by
    rw [h.split]
    simp
  tracks := h.tracks
  ahead := h.ahead
  behind other hother := h.behind other (by simpa using hother)
  only := h.only
  waits :=
    { ids_eq := by
        rw [h.waits.ids_eq, List.filter_append]
        simp [hrenders]
      current := h.waits.current
      wellFormed := h.waits.wellFormed
      made := fun d hd => by
        obtain ⟨other, hother, hmade⟩ := h.waits.made d hd
        exact ⟨other, List.mem_append_left _ hother, hmade⟩ }
  stats := by
    show { link.owner.stats with
      documentFailures := link.owner.stats.documentFailures + 1 } = _
    rw [h.stats, ← List.append_assoc, unrendered_append_singleton, hrenders]
    simp [Stats.counted, Nat.add_assoc]
  reconnects := h.reconnects

/-- A counter that can be rendered waits with its document, on top of the revision that the worker
knows. -/
lemma Passing.add {counter : Nat} {d : Document} (source : Entropy.Source)
    (h : Passing c ids renders w done finished waiting (counter :: left) batch g link)
    (hrenders : renders counter = true) (hid : d.id = ids counter) (hd : c.Renders counter d) :
    Passing c ids renders w done finished (waiting ++ [counter]) left
      (batch ++ [{ d with rev := (link.owner.tracker.get? d.id).map Revision.display }]) g
      (link.with { link.owner with source }) where
  split := by
    rw [h.split]
    simp
  tracks := h.tracks
  ahead := h.ahead
  behind other hother := h.behind other (by simpa using hother)
  only := h.only
  waits :=
    { ids_eq := by
        rw [List.map_append, h.waits.ids_eq, List.filter_append]
        simp [hrenders, hid]
      current := fun e he => by
        rcases List.mem_append.1 he with he | he
        · exact h.waits.current e he
        · rw [List.mem_singleton.1 he]
          exact congrArg (Option.map Revision.display) (h.tracks d.id)
      wellFormed := fun e he => by
        rcases List.mem_append.1 he with he | he
        · exact h.waits.wellFormed e he
        · rw [List.mem_singleton.1 he]
          exact hd.wellFormed.withRev _
      made := fun e he => by
        rcases List.mem_append.1 he with he | he
        · obtain ⟨other, hother, hmade⟩ := h.waits.made e he
          exact ⟨other, List.mem_append_left _ hother, hmade⟩
        · rw [List.mem_singleton.1 he]
          exact ⟨counter, by simp, hid, d, hd, rfl⟩ }
  stats := by
    show link.owner.stats = _
    rw [h.stats, ← List.append_assoc, unrendered_append_singleton, hrenders]
    rfl
  reconnects := h.reconnects

/-- Every pass takes all documents one stage further. -/
lemma safe_completePass (hc : c.Uniform ids renders) (hw : w.Posted c ids L place)
    (hbulk : c.usesBulk = true) (hdone : done < c.revisions)
    (h : Rested c ids renders w done g link) :
    Safe L.discipline (fun _ _ => True) place (w.writePass (done + 1) [] w.partition.counters)
      (fun _ g link => Rested c ids renders w (done + 1) g (link.with link.owner.finishPass)) g
      link := by
  have hwaiting : ([] : List Document).length < w.config.bulkBatch := by
    rw [hw.config_eq]
    exact Config.bulkBatch_pos hbulk
  refine ((safe_logic L.calm).holds_writePass (fun batch left g link => ∃ finished waiting,
    Passing c ids renders w done finished waiting left batch g link)
    (fun _ _ _ _ _ => trivial) ?_ ?_ ?_ _ hwaiting ⟨[], [], h.start hdone⟩).mono ?_
  · rintro r e batch left g link ⟨finished, waiting, h⟩ - he
    have hmem := hw.counters (h.mem_counters (Or.inr (Or.inr List.mem_cons_self)))
    rw [hw.config_eq] at he
    exact ⟨_, _, h.skip _ (hc.renders_of_fails hmem (Rendering.failsToRender he))⟩
  · rintro r d batch left g link ⟨finished, waiting, h⟩ - hmade
    have hmem := hw.counters (h.mem_counters (Or.inr (Or.inr List.mem_cons_self)))
    rw [hw.config_eq] at hmade
    have hd := Rendering.renders hmade
    exact ⟨_, _, h.add _ (hc.renders_of_renders hmem hd) (hc.id_eq _ hmem d hd) hd⟩
  · rintro batch left g link _ _ _ ⟨finished, waiting, h⟩
    exact (safe_completeSubmit hc hw h).mono fun _ _ _ h => ⟨_, _, h⟩
  · rintro _ g link ⟨finished, waiting, h⟩
    exact h.finish

/-- A worker that writes documents in batches completes its work. -/
lemma safe_completePasses (hc : c.Uniform ids renders) (hw : w.Posted c ids L place)
    (hbulk : c.usesBulk = true) (hrevisions : c.revisions ≠ 0) (source : Entropy.Source) :
    Safe L.discipline (fun _ _ => True) place
      (w.writePasses w.partition.counters (List.range' 1 c.revisions))
      (fun _ g link => Rested c ids renders w c.revisions g link) {} { owner := { source } } := by
  refine ((safe_logic L.calm).holds_writePasses (fun passes g link => ∃ done, done ≤ c.revisions ∧
    passes = List.range' (done + 1) (c.revisions - done) ∧ Rested c ids renders w done g link)
    _ ?_ _ ⟨0, Nat.zero_le _, rfl, ?_⟩).mono ?_
  · rintro pass passes g link ⟨done, hle, hpasses, h⟩
    have hlt : done < c.revisions := by
      rcases Nat.lt_or_eq_of_le hle with hlt | rfl
      · exact hlt
      · rw [Nat.sub_self] at hpasses
        cases hpasses
    obtain ⟨k, hk⟩ : ∃ k, c.revisions - done = k + 1 := ⟨c.revisions - done - 1, by omega⟩
    rw [hk, List.range'_succ, List.cons.injEq] at hpasses
    obtain ⟨rfl, rfl⟩ := hpasses
    refine (safe_completePass hc hw hbulk hlt h).mono fun _ g link h => ⟨done + 1, hlt, ?_, h⟩
    congr 1
    omega
  · have hzero : conflictsAt c 0 = 0 := by
      rw [conflictsAt, if_neg (Ne.symm hrevisions)]
    refine ⟨fun _ => rfl, fun _ _ _ => Share.staged_zero rfl, fun id d hd => ?_, ?_, rfl⟩
    · cases hd
    · rw [hzero]
      simp [Stats.counted]
  · rintro _ g link ⟨done, hle, hpasses, h⟩
    have hdone : done = c.revisions := by
      have := congrArg List.length hpasses
      rw [List.length_range', List.length_nil] at this
      omega
    rw [← hdone]
    exact h

/-- A worker completes its work, whether it writes documents one by one or in batches. -/
theorem safe_completed (hvalid : c.validate = .ok ()) (hc : c.Uniform ids renders)
    (hw : w.Posted c ids L place) (source : Entropy.Source) :
    (w.program source).Safe L.discipline (fun _ _ => True)
      (Completed c ids renders w.partition.counters) place {} := by
  obtain ⟨-, hrevisions, hconflicts⟩ := Config.bounds_of_validate hvalid
  cases hbulk : c.usesBulk with
  | true =>
    have hwork : Safe L.discipline (fun _ _ => True) place w.work
        (fun _ g link => Rested c ids renders w c.revisions g link) {} { owner := { source } } := by
      refine (safe_logic L.calm).holds_work trivial (fun _ => ?_) fun h => by
        simp [hw.config_eq, hbulk] at h
      rw [hw.config_eq]
      exact safe_completePasses hc hw hbulk hrevisions source
    refine Program.Safe.bind (Program.Safe.mono hwork (fun _ _ h => h) ?_)
    rintro g ⟨⟨⟩, link⟩ h
    have hlast : conflictsAt c c.revisions = c.conflicts := if_pos rfl
    refine ⟨?_, h.only, ?_⟩
    · have := h.staged
      rwa [hlast] at this
    · show { link.owner.stats with reconnects := link.reconnects } = _
      rw [h.stats, h.reconnects, hlast, if_pos hbulk]
      rfl
  | false =>
    have hnone : c.conflicts = 0 := hconflicts hbulk
    have hwork : Safe L.discipline (fun _ _ => True) place w.work
        (fun _ g link => OneByOne c ids renders w w.partition.counters [] g link) {}
        { owner := { source } } := by
      exact (safe_logic L.calm).holds_work trivial (fun h => by simp [hw.config_eq, hbulk] at h)
        fun _ => safe_completeEach hc hw source
    refine Program.Safe.bind (Program.Safe.mono hwork (fun _ _ h => h) ?_)
    rintro g ⟨⟨⟩, link⟩ h
    refine ⟨?_, h.only, ?_⟩
    · rw [hnone]
      exact h.staged
    · show { link.owner.stats with reconnects := link.reconnects } = _
      rw [h.stats, h.reconnects, hnone, if_neg (by simp [hbulk]), Nat.zero_mul, Nat.one_mul]
      rfl

end Worker

end CouchLoad
