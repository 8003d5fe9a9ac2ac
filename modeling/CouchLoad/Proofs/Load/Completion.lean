import CouchLoad.Proofs.Load.Rules
import CouchLoad.Proofs.Load.Stages

/-!
# Workers that complete their work

Where nothing is dropped, a worker brings the document of each of its counters to its last stage,
and what it counts is known in advance. Counters that cannot be rendered are failures: of one
document each, or of one document in each pass.
-/

namespace CouchLoad

open Session

/-- What a worker can rely on to complete its work: nothing is dropped, and nobody else writes the
ids of its counters. -/
structure Worker.Posted (c : Config) (ids : Nat → String) (L : Site) (w : Worker) (place : Nat) :
    Prop where
  config_eq : w.config = c
  db_eq : w.db = L.db
  member : place < L.members
  counters : w.partition.counters ⊆ c.counters
  territory : ∀ counter ∈ w.partition.counters, L.territory place (ids counter)
  own : ∀ counter ∈ w.partition.counters, ¬L.Contested place (ids counter)
  steady : L.premise.Steady
  distinct : L.premise.distinct

/-- The documents of a share belong to counters that can be rendered. -/
def Share.Only (ids : Nat → String) (renders : Nat → Bool) (counters : List Nat) (g : Share) :
    Prop :=
  ∀ id d, g.documents id = some d → ∃ counter ∈ counters, renders counter = true ∧ ids counter = id

/-- What a worker has counted: revisions, failures and conflicts. -/
def Stats.counted (writes failures conflicts : Nat) : Stats :=
  { documentWrites := writes, documentFailures := failures, conflictWrites := conflicts }

/-- How many of some counters can be rendered, and how many cannot. -/
def rendered (renders : Nat → Bool) (counters : List Nat) : Nat :=
  counters.countP renders

@[inherit_doc rendered]
def unrendered (renders : Nat → Bool) (counters : List Nat) : Nat :=
  counters.countP fun counter => !renders counter

namespace Config.Uniform

variable {c : Config} {ids : Nat → String} {renders : Nat → Bool} {counter : Nat}

lemma renders_of_renders (h : c.Uniform ids renders) (hcounter : counter ∈ c.counters)
    {d : Document} (hd : c.Renders counter d) : renders counter = true := by
  have := h.always counter hcounter
  split at this
  · assumption
  · exact absurd hd (this d)

lemma renders_of_fails (h : c.Uniform ids renders) (hcounter : counter ∈ c.counters)
    (hfails : c.FailsToRender counter) : renders counter = false := by
  have := h.always counter hcounter
  split at this
  · exact absurd hfails this
  · rename_i hfalse
    exact Bool.eq_false_iff.2 hfalse

end Config.Uniform

namespace Worker

/-! ### Documents one by one -/

/-- What holds while documents are written one by one, with some finished and some left. -/
structure OneByOne (c : Config) (ids : Nat → String) (renders : Nat → Bool) (w : Worker)
    (finished left : List Nat) (g : Share) (link : Link Progress) : Prop where
  split : w.partition.counters = finished ++ left
  staged : ∀ counter ∈ finished, renders counter → g.Staged c ids counter c.revisions 0
  absent : ∀ counter ∈ left, g.documents (ids counter) = none
  only : g.Only ids renders w.partition.counters
  stats : link.owner.stats =
    Stats.counted (c.revisions * rendered renders finished) (unrendered renders finished) 0
  reconnects : link.reconnects = 0

/-- What a worker leaves behind that has completed its work. -/
structure Completed (c : Config) (ids : Nat → String) (renders : Nat → Bool)
    (counters : List Nat) (g : Share) (report : Report) : Prop where
  staged : ∀ counter ∈ counters, renders counter →
    g.Staged c ids counter c.revisions c.conflicts
  only : g.Only ids renders counters
  stats : report.stats = Stats.counted (c.revisions * rendered renders counters)
    ((if c.usesBulk then c.revisions else 1) * unrendered renders counters)
    (c.conflicts * rendered renders counters)

variable {c : Config} {ids : Nat → String} {renders : Nat → Bool} {L : Site} {w : Worker}
  {place : Nat} {g : Share} {link : Link Progress}

/-- Every pass over a document takes it one stage further. -/
lemma safe_completeRevisions (link : Link Progress) (hc : c.Uniform ids renders)
    (hw : w.Posted c ids L place) {counter : Nat} (hcounter : counter ∈ w.partition.counters)
    {d : Document} (hd : c.Renders counter d) (habsent : g.documents (ids counter) = none)
    (hreconnects : link.reconnects = 0) :
    Safe L.discipline (fun _ _ => True) place
      (w.putRevisions d none (List.range' 1 c.revisions))
      (fun _ g' link' => g'.Staged c ids counter c.revisions 0 ∧
        (∀ id, id ≠ ids counter → g'.documents id = g.documents id) ∧
        link'.owner.stats = { link.owner.stats with
          documentWrites := link.owner.stats.documentWrites + c.revisions } ∧
        link'.reconnects = 0) g link := by
  have hmem := hw.counters hcounter
  have hid := hc.id_eq counter hmem d hd
  have hterritory : L.territory place d.id := by
    rw [hid]
    exact hw.territory counter hcounter
  refine safe_putRevisions (fun passes current g' link' => passes.length ≤ c.revisions ∧
      g'.Staged c ids counter (c.revisions - passes.length) 0 ∧
      (∀ id, id ≠ ids counter → g'.documents id = g.documents id) ∧
      current = g'.current d.id ∧
      link'.owner.stats = { link.owner.stats with
        documentWrites := link.owner.stats.documentWrites + (c.revisions - passes.length) } ∧
      link'.reconnects = 0)
    hw.db_eq hd.wellFormed hw.member hterritory ?_ ?_ ?_ ?_ ?_ _ ?_
  · rintro passes current g' link' ⟨-, -, -, rfl, -⟩
    cases hdoc : g'.documents d.id <;> simp [Share.current, hdoc]
  · rintro passes current g' link' n hn ⟨hlength, hstaged, hframe, hcurrent, hstats, hzero⟩
    refine ⟨hlength, hstaged, hframe, hcurrent, hstats, ?_⟩
    exact (hn.resolve_right (not_not_intro hw.steady)).trans hzero
  · rintro pass passes g' link' stored time ⟨hlength, hstaged, hframe, -, hstats, hzero⟩ hsucceeds
      hbody
    rw [List.length_cons] at hlength hstaged hstats
    have hstage : c.revisions - (passes.length + 1) + 1 = c.revisions - passes.length := by omega
    rw [hid] at hsucceeds ⊢
    have hnext := hstaged.succeeds hsucceeds hd hbody
    rw [hstage] at hnext
    refine ⟨by omega, Share.staged_of_some (by simp) hnext, ?_, by simp, ?_, hzero⟩
    · intro id hne
      rw [Share.documents_write_of_ne _ hne, hframe id hne]
    · show { link'.owner.stats with documentWrites := link'.owner.stats.documentWrites + 1 } = _
      rw [hstats]
      simp only [Stats.mk.injEq, and_true]
      omega
  · rintro pass passes current g' link' ⟨-, -, -, rfl, -⟩ hreason
    -- in this setting no reason for a refusal is left
    rcases hreason with hsteady | hsecurity | hne | hcontested
    · exact absurd hw.steady hsteady
    · exact absurd (hid.symm.trans hsecurity) (hc.ne_security counter hmem)
    · exact absurd rfl hne
    · rw [hid] at hcontested
      exact absurd hcontested (hw.own counter hcounter)
  · rintro current g' link' ⟨-, hstaged, hframe, -, hstats, hzero⟩
    exact ⟨hstaged, hframe, hstats, hzero⟩
  · rw [List.length_range', Nat.sub_self]
    refine ⟨Nat.le_refl _, Share.staged_zero habsent, fun _ _ => rfl, ?_, rfl, hreconnects⟩
    simp [Share.current, hid, habsent]

lemma rendered_append_singleton (finished : List Nat) (counter : Nat) :
    rendered renders (finished ++ [counter]) =
      rendered renders finished + if renders counter then 1 else 0 := by
  simp [rendered, List.countP_append, List.countP_singleton]

lemma unrendered_append_singleton (finished : List Nat) (counter : Nat) :
    unrendered renders (finished ++ [counter]) =
      unrendered renders finished + if renders counter then 0 else 1 := by
  cases h : renders counter <;> simp [unrendered, List.countP_append, h]

/-- The counters of a worker have different ids. -/
lemma Posted.id_injective (hw : w.Posted c ids L place) (hc : c.Uniform ids renders)
    {counter counter' : Nat} (h : counter ∈ w.partition.counters)
    (h' : counter' ∈ w.partition.counters) (heq : ids counter = ids counter') :
    counter = counter' := hc.injective (hw.counters h) (hw.counters h') heq

/-- The next document is brought to its last stage. -/
lemma safe_completeDocument (hc : c.Uniform ids renders) (hw : w.Posted c ids L place)
    {finished left : List Nat} {counter : Nat} {d : Document} (source : Entropy.Source)
    (h : OneByOne c ids renders w finished (counter :: left) g link)
    (hd : c.Renders counter d) :
    Safe L.discipline (fun _ _ => True) place (w.writeDocument d)
      (fun _ g link => OneByOne c ids renders w (finished ++ [counter]) left g link) g
      (link.with { link.owner with source }) := by
  have hcounter : counter ∈ w.partition.counters := by
    rw [h.split]
    simp
  have hrenders := hc.renders_of_renders (hw.counters hcounter) hd
  have hnodup : (finished ++ counter :: left).Nodup := by
    rw [← h.split]
    exact Config.nodup_partition
  have hput := safe_completeRevisions (link.with { link.owner with source }) hc hw hcounter
    hd (h.absent counter List.mem_cons_self) h.reconnects
  unfold writeDocument
  rw [hw.config_eq]
  refine safe_bind (hput.mono ?_)
  rintro current g' link' ⟨hstaged, hframe, hstats, hzero⟩
  have hnext : OneByOne c ids renders w (finished ++ [counter]) left g' link' := by
    have hframe' : ∀ other ∈ w.partition.counters, other ≠ counter →
        g'.documents (ids other) = g.documents (ids other) := fun other hother hne =>
      hframe _ fun heq => hne (hw.id_injective hc hother hcounter heq)
    refine ⟨by rw [h.split]; simp, ?_, ?_, ?_, ?_, hzero⟩
    · intro other hother hrenders'
      rcases List.mem_append.1 hother with hother | hother
      · have hne : other ≠ counter := fun heq =>
          (List.nodup_append.1 hnodup).2.2 other hother counter List.mem_cons_self heq
        refine (h.staged other hother hrenders').congr (hframe' other ?_ hne)
        rw [h.split]
        exact List.mem_append_left _ hother
      · rw [List.mem_singleton.1 hother]
        exact hstaged
    · intro other hother
      have hne : other ≠ counter := fun heq =>
        (List.nodup_cons.1 (List.nodup_append.1 hnodup).2.1).1 (heq ▸ hother)
      rw [hframe' other (by rw [h.split]; simp [hother]) hne]
      exact h.absent other (List.mem_cons_of_mem _ hother)
    · intro id stored hstored
      by_cases hid : id = ids counter
      · exact ⟨counter, hcounter, hrenders, hid.symm⟩
      · rw [hframe id hid] at hstored
        exact h.only id stored hstored
    · rw [hstats]
      show { link.owner.stats with
        documentWrites := link.owner.stats.documentWrites + c.revisions } = _
      rw [h.stats, rendered_append_singleton, unrendered_append_singleton, hrenders]
      simp [Stats.counted, Nat.mul_add]
  rw [hc.attachments counter (hw.counters hcounter) d hd]
  cases current with
  | none => exact safe_pure hnext
  | some rev => exact safe_pure hnext

/-- A worker that writes documents one by one completes its work. -/
lemma safe_completeEach (hc : c.Uniform ids renders) (hw : w.Posted c ids L place)
    (source : Entropy.Source) :
    Safe L.discipline (fun _ _ => True) place (w.writeEach w.partition.counters)
      (fun _ g link => OneByOne c ids renders w w.partition.counters [] g link) {}
      { owner := { source } } := by
  refine ((safe_logic L.calm).holds_writeEach (fun _ _ => trivial) (fun left g link =>
    ∃ finished, OneByOne c ids renders w finished left g link) ?_ ?_ _ ⟨[], ?_⟩).mono ?_
  · rintro r e left g link ⟨finished, h⟩ - he
    have hcounter : r.counter ∈ w.partition.counters := by
      rw [h.split]
      simp
    rw [hw.config_eq] at he
    have hrenders := hc.renders_of_fails (hw.counters hcounter) (Rendering.failsToRender he)
    refine ⟨finished ++ [r.counter], by rw [h.split]; simp, ?_, ?_, h.only, ?_, h.reconnects⟩
    · intro other hother hrenders'
      rcases List.mem_append.1 hother with hother | hother
      · exact h.staged other hother hrenders'
      · rw [List.mem_singleton.1 hother, hrenders] at hrenders'
        cases hrenders'
    · intro other hother
      exact h.absent other (List.mem_cons_of_mem _ hother)
    · show { link.owner.stats with
        documentFailures := link.owner.stats.documentFailures + 1 } = _
      rw [h.stats, rendered_append_singleton, unrendered_append_singleton, hrenders]
      simp [Stats.counted]
  · rintro r d left g link ⟨finished, h⟩ - hmade
    rw [hw.config_eq] at hmade ⊢
    exact (safe_completeDocument hc hw _ h (Rendering.renders hmade)).mono fun _ _ _ h => ⟨_, h⟩
  · exact ⟨rfl, by simp, fun _ _ => rfl, (fun id d hd => by cases hd), rfl, rfl⟩
  · rintro _ g link ⟨finished, h⟩
    have hall : w.partition.counters = finished := by
      rw [h.split, List.append_nil]
    rw [← hall] at h
    exact h

end Worker

end CouchLoad
