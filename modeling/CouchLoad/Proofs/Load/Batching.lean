import CouchLoad.Proofs.Load.Tracking

/-!
# Workers that write batches

The invariant of a worker that writes batches, from its first action to its last. Where the id of
a document depends on its counter alone, and no two counters have the same id, no document is
further than the passes of its worker.
-/

namespace CouchLoad

open Session

/-- What a worker is given: a place in a team, and counters that are rendered to documents of its
territory. If `fixed` holds, the ids of these documents are known. -/
structure Worker.Assigned (L : Site) (w : Worker) (place : Nat) (fixed : Prop)
    (ids : Nat → String) : Prop where
  db_eq : w.db = L.db
  member : place < L.members
  territory : ∀ counter ∈ w.partition.counters, ∀ d, w.config.Renders counter d →
    L.territory place d.id
  id_eq : fixed → ∀ counter ∈ w.partition.counters, ∀ d, w.config.Renders counter d →
    d.id = ids counter
  nodup : fixed → (w.partition.counters.map ids).Nodup

/-- What a worker knows whenever no batch of it is in flight. -/
def Progress.Informed (fixed : Prop) (p : Progress) (g : Share) : Prop :=
  p.inFlight = false → p.Tracks g ∧
    (fixed → ∀ id, g.generation id ≤ p.passes + if p.batches = 0 then 0 else 1)

namespace Worker

/-- What holds in the middle of a pass, after a number of passes that are done, with a batch that
waits and counters that are left. -/
structure MidPass (L : Site) (w : Worker) (place : Nat) (fixed : Prop) (ids : Nat → String)
    (done : Nat) (batch : List Document) (counters : List Nat) (g : Share)
    (link : Link Progress) : Prop where
  passes : link.owner.passes = done
  tracks : link.owner.Tracks g
  counts : link.owner.Counts g
  landed : link.owner.inFlight = false
  admitted : ∀ d ∈ batch, g.Admits d ∧ L.territory place d.id
  assigned : ∀ counter ∈ counters, counter ∈ w.partition.counters
  behind : fixed → link.owner.Behind ids g batch counters

/-- What holds between passes. -/
structure BetweenPasses (fixed : Prop) (done : Nat) (g : Share) (link : Link Progress) :
    Prop where
  passes : link.owner.passes = done
  tracks : link.owner.Tracks g
  counts : link.owner.Counts g
  landed : link.owner.inFlight = false
  batches : link.owner.batches = 0
  atMost : fixed → ∀ id, g.generation id ≤ link.owner.passes

variable {L : Site} {w : Worker} {place : Nat} {fixed : Prop} {ids : Nat → String}
  {done : Nat} {batch : List Document} {counters : List Nat} {g : Share} {link : Link Progress}

lemma MidPass.informed (h : MidPass L w place fixed ids done batch counters g link) :
    link.owner.Informed fixed g :=
  fun _ => ⟨h.tracks, fun hfixed => (h.behind hfixed).atMost⟩

lemma BetweenPasses.informed (h : BetweenPasses fixed done g link) : link.owner.Informed fixed g :=
  fun _ => ⟨h.tracks, fun hfixed id => Nat.le_add_right_of_le (h.atMost hfixed id)⟩

/-- A pass starts with all counters of the worker. -/
lemma BetweenPasses.start (h : BetweenPasses fixed done g link)
    (hw : w.Assigned L place fixed ids) :
    MidPass L w place fixed ids done [] w.partition.counters g link where
  passes := h.passes
  tracks := h.tracks
  counts := h.counts
  landed := h.landed
  admitted _ hd := absurd hd List.not_mem_nil
  assigned _ := id
  behind hfixed :=
    { atMost := fun id => Nat.le_add_right_of_le (h.atMost hfixed id)
      waiting := fun _ hd => absurd hd List.not_mem_nil
      left := fun _ _ => h.atMost hfixed _
      nodup := hw.nodup hfixed }

/-- A pass ends once nothing is left. -/
lemma MidPass.finish (h : MidPass L w place fixed ids done [] [] g link) :
    BetweenPasses fixed (done + 1) g (link.with link.owner.finishPass) where
  passes := congrArg Nat.succ h.passes
  tracks := h.tracks
  counts := ⟨h.counts.writes, h.counts.conflicts⟩
  landed := h.landed
  batches := rfl
  atMost hfixed id := by
    have := (h.behind hfixed).atMost id
    show _ ≤ link.owner.passes + 1
    split at this <;> omega

lemma safe_batchFlush {pass : Nat} (hw : w.Assigned L place fixed ids)
    (h : MidPass L w place fixed ids done batch counters g link) :
    Safe L.discipline (fun g link => link.owner.Informed fixed g) place (w.flush pass batch)
      (fun _ g link => MidPass L w place fixed ids done [] counters g link) g link := by
  refine safe_flush hw.db_eq hw.member ?_ h.admitted ?_ ?_
  · intro g link hflying hlanded
    rw [hflying] at hlanded
    cases hlanded
  · intro n time _
    have hmid : MidPass L w place fixed ids done [] counters g ((link.relinked n).with
        ((link.owner.launch.land.sample .document time).failDocuments batch.length)) :=
      { passes := h.passes
        tracks := h.tracks
        counts := ⟨h.counts.writes, h.counts.conflicts⟩
        landed := rfl
        admitted := fun d hd => absurd hd List.not_mem_nil
        assigned := h.assigned
        behind := fun hfixed => (h.behind hfixed).lose _ _ }
    exact ⟨hmid.informed, hmid⟩
  · intro results g' n time _ hwritten
    have htracks : (link.owner.launch.land.sample .document time).Tracks g := h.tracks
    have hcounts : (link.owner.launch.land.sample .document time).Counts g :=
      ⟨h.counts.writes, h.counts.conflicts⟩
    have hmid : MidPass L w place fixed ids done [] counters g' ((link.relinked n).with
        ((link.owner.launch.land.sample .document time).recordResults batch results)) :=
      { passes := (Progress.recordResults_keeps _ batch results).passes.trans h.passes
        tracks := Progress.tracks_recordResults hwritten htracks
        counts := Progress.counts_recordResults hwritten hcounts
        landed := (Progress.recordResults_keeps _ batch results).inFlight
        admitted := fun d hd => absurd hd List.not_mem_nil
        assigned := h.assigned
        behind := fun hfixed => (h.behind hfixed).write hwritten time }
    exact ⟨hmid.informed, hmid⟩

lemma safe_batchConflicts (hw : w.Assigned L place fixed ids)
    (hwell : ∀ d ∈ batch, d.WellFormed)
    (h : MidPass L w place fixed ids done [] counters g link) :
    Safe L.discipline (fun g link => link.owner.Informed fixed g) place (w.addConflicts batch)
      (fun _ g link => MidPass L w place fixed ids done [] counters g link) g link := by
  apply (safe_logic L.calm).holds_addConflicts
  rw [hw.db_eq]
  have hcurrent : ∀ g' n, g'.current = g.current →
      (link.relinked n).owner.Informed fixed g' := by
    intro g' n hg' hlanded
    obtain ⟨htracks, hmost⟩ := h.informed hlanded
    refine ⟨fun id => by rw [hg']; exact htracks id, fun hfixed id => ?_⟩
    have := hmost hfixed id
    rwa [Share.generation, ← hg', ← Share.generation] at this
  -- the share can only gain conflicts, as many as the outcome tells
  refine (Conflict.safe_injectPasses
    (fun _ o g' => g'.writes = g.writes ∧ g'.conflicts = g.conflicts + o.written) hcurrent hwell
    (fun id rev hrev => (h.tracks id).symm.trans hrev) ?_ ?_ ?_ _ ⟨rfl, rfl⟩).mono ?_
  · intro passes o g' _ hI
    exact hI
  · intro pass passes o g' time _ hI
    exact hI
  · intro pass passes o g' g'' entries time hI hentries hconflicted
    obtain ⟨hwrites, hconflicts⟩ := hconflicted.counts
    have hlength : entries.length = (Conflict.known link.owner.tracker batch).length := by
      rw [← hentries, List.length_map]
    refine ⟨hwrites.trans hI.1, ?_⟩
    simp only [Conflict.Outcome.accept]
    rw [hconflicts, hI.2, hlength]
    omega
  · rintro ⟨o, source⟩ g' after ⟨⟨hwrites, hconflicts⟩, hg', n, -, rfl⟩
    exact
      { passes := h.passes
        tracks := fun id => by rw [hg']; exact h.tracks id
        counts := ⟨h.counts.writes.trans hwrites.symm, by
          show link.owner.stats.conflictWrites + o.written = g'.conflicts
          rw [h.counts.conflicts, hconflicts]⟩
        landed := h.landed
        admitted := fun d hd => absurd hd List.not_mem_nil
        assigned := h.assigned
        behind := fun hfixed =>
          have hbehind := h.behind hfixed
          have hgeneration : g'.generation = g.generation := by
            funext id
            rw [Share.generation, Share.generation, hg']
          { atMost := fun id => by rw [hgeneration]; exact hbehind.atMost id
            waiting := fun d hd => absurd hd List.not_mem_nil
            left := fun counter hcounter => by rw [hgeneration]; exact hbehind.left counter hcounter
            nodup := hbehind.nodup } }

/-- Every batch that is submitted keeps the invariant. -/
lemma safe_batchSubmit {pass : Nat} (hw : w.Assigned L place fixed ids)
    (h : MidPass L w place fixed ids done batch counters g link) :
    Safe L.discipline (fun g link => link.owner.Informed fixed g) place (w.submit pass batch)
      (fun _ g link => MidPass L w place fixed ids done [] counters g link) g link := by
  refine safe_bind ((safe_batchFlush hw h).mono fun _ g link hmid => ?_)
  split
  · exact safe_batchConflicts hw (fun d hd => (h.admitted d hd).1.wellFormed) hmid
  · exact safe_pure hmid

/-- Every pass keeps the invariant. -/
lemma safe_batchPass {pass : Nat} (hw : w.Assigned L place fixed ids)
    (hbulk : w.config.usesBulk = true) (h : BetweenPasses fixed done g link) :
    Safe L.discipline (fun g link => link.owner.Informed fixed g) place
      (w.writePass pass [] w.partition.counters)
      (fun _ g link => BetweenPasses fixed (done + 1) g (link.with link.owner.finishPass)) g
      link := by
  have hwaiting : ([] : List Document).length < w.config.bulkBatch := Config.bulkBatch_pos hbulk
  refine ((safe_logic L.calm).holds_writePass (MidPass L w place fixed ids done)
    (fun _ _ _ _ h => h.informed) ?_ ?_ ?_ _ hwaiting (h.start hw)).mono fun _ _ _ h => h.finish
  · intro r e batch counters g link h _ _
    exact
      { passes := h.passes
        tracks := h.tracks
        counts := ⟨h.counts.writes, h.counts.conflicts⟩
        landed := h.landed
        admitted := h.admitted
        assigned := fun n hn => h.assigned n (List.mem_cons_of_mem _ hn)
        behind := fun hfixed => (h.behind hfixed).skip (r.behind w.config) 1 }
  · intro r d batch counters g link h _ hmade
    have hd := Rendering.renders hmade
    have hcounter := h.assigned r.counter List.mem_cons_self
    exact
      { passes := h.passes
        tracks := h.tracks
        counts := ⟨h.counts.writes, h.counts.conflicts⟩
        landed := h.landed
        admitted := by
          intro e he
          rcases List.mem_append.1 he with he | he
          · exact h.admitted e he
          · rw [List.mem_singleton.1 he]
            refine ⟨⟨hd.wellFormed.withRev _, ?_⟩, hw.territory r.counter hcounter d hd⟩
            simp only [h.tracks d.id, Share.current, Option.map_eq_none_iff]
            cases g.documents d.id <;> simp
        assigned := fun n hn => h.assigned n (List.mem_cons_of_mem _ hn)
        behind := fun hfixed =>
          (h.behind hfixed).add (hw.id_eq hfixed r.counter hcounter d hd) _ (r.behind w.config) }
  · intro batch counters g link _ _ _ h
    exact safe_batchSubmit hw h

/-- What a worker that has written batches leaves behind. -/
structure Settled (fixed : Prop) (revisions : Nat) (g : Share) (report : Report) : Prop where
  tracks : ∀ id, report.tracker.get? id = g.current id
  writes : report.stats.documentWrites + report.stats.attachmentWrites = g.writes
  conflicts : report.stats.conflictWrites = g.conflicts
  atMost : fixed → ∀ id, g.generation id ≤ revisions

/-- A worker that writes batches keeps to the discipline of its team from beginning to end. -/
theorem safe_batchProgram (hw : w.Assigned L place fixed ids) (hbulk : w.config.usesBulk = true)
    (source : Entropy.Source) :
    (w.program source).Safe L.discipline (fun g link => link.owner.Informed fixed g)
      (Settled fixed w.config.revisions) place {} := by
  have hstart : BetweenPasses fixed 0 {} { owner := { source } } :=
    { passes := rfl
      tracks := fun _ => rfl
      counts := ⟨rfl, rfl⟩
      landed := rfl
      batches := rfl
      atMost := fun _ _ => Nat.le_refl 0 }
  have hwork : Safe L.discipline (fun g link => link.owner.Informed fixed g) place w.work
      (fun _ g link => BetweenPasses fixed w.config.revisions g link) {}
      { owner := { source } } := by
    refine (safe_logic L.calm).holds_work hstart.informed (fun _ => ?_) fun heach => by
      simp [hbulk] at heach
    refine ((safe_logic L.calm).holds_writePasses (fun passes g link =>
      BetweenPasses fixed (w.config.revisions - passes.length) g link ∧
        passes.length ≤ w.config.revisions) _ ?_ _ ?_).mono fun _ _ _ h => h.1
    · rintro pass passes g link ⟨h, hlength⟩
      refine (safe_batchPass hw hbulk h).mono fun _ g link h => ?_
      rw [List.length_cons] at h hlength
      refine ⟨?_, by omega⟩
      have hdone : w.config.revisions - (passes.length + 1) + 1 =
          w.config.revisions - passes.length := by omega
      rwa [← hdone]
    · simpa using hstart
  refine Program.Safe.bind (Program.Safe.mono hwork (fun _ _ h => h) ?_)
  rintro g ⟨⟨⟩, link⟩ h
  exact ⟨h.tracks, h.counts.writes, h.counts.conflicts, fun hfixed id => by
    rw [← h.passes]
    exact h.atMost hfixed id⟩

end Worker

end CouchLoad
