import CouchLoad.Proofs.Load.Batching
import CouchLoad.Proofs.Load.Runs

/-!
# Reported totals are what the server holds

Every revision that a run reports as written is in the history of a document, and every revision in
a history has been reported; the same goes for conflicts. This holds for all templates, so ids may
be shared and attachments may fail, and whatever failures are injected into the server.
-/

namespace CouchLoad

open Server Session Finset

/-! ### Sums of counts -/

/-- A count that adds up over runs adds up over any number of them. -/
lemma Stats.map_total {f : Stats → Nat} (hzero : f {} = 0)
    (hadd : ∀ s t : Stats, f (s.add t) = f s + f t) (all : List Stats) :
    f (Stats.total all) = (all.map f).sum := by
  have hfold : ∀ start : Stats, f (all.foldl Stats.add start) = f start + (all.map f).sum := by
    induction all with
    | nil => intro start; simp
    | cons s all ih =>
      intro start
      rw [List.foldl_cons, ih, hadd, List.map_cons, List.sum_cons, Nat.add_assoc]
  rw [Stats.total, hfold, hzero, Nat.zero_add]

/-- A sum over a list, whose terms are known by their places. -/
lemma sum_map_eq_sum_range {α : Type} {f : α → Nat} {h : Nat → Nat} {l : List α}
    (heq : ∀ i a, l[i]? = some a → f a = h i) : (l.map f).sum = ∑ i ∈ range l.length, h i := by
  induction l generalizing h with
  | nil => simp
  | cons a l ih =>
    have htail : ∀ i b, l[i]? = some b → f b = h (i + 1) := fun i b hi => heq (i + 1) b hi
    rw [List.map_cons, List.sum_cons, ih htail, List.length_cons, sum_range_succ', heq 0 a rfl,
      Nat.add_comm]

/-- A sum over summaries is a sum over the databases that they belong to. -/
lemma sum_of_forall₂ {α β : Type} {R : α → β → Prop} {f : α → Nat} {h : β → Nat} {l : List α}
    {l' : List β} (hl : List.Forall₂ R l l') (heq : ∀ a b, R a b → f a = h b) :
    (l.map f).sum = (l'.map h).sum := by
  induction hl with
  | nil => rfl
  | cons hab _ ih =>
    rw [List.map_cons, List.map_cons, List.sum_cons, List.sum_cons, ih, heq _ _ hab]

namespace Worker

/-! ### What one worker counts -/

/-- A report counts what its worker has contributed. -/
structure Balanced (g : Share) (report : Report) : Prop where
  writes : report.stats.documentWrites + report.stats.attachmentWrites = g.writes
  conflicts : report.stats.conflictWrites = g.conflicts

variable {L : Site} {w : Worker} {place : Nat} {g : Share} {link : Link Progress}

/-- Whatever becomes of the revisions of a document and of its attachments, all that is written
counts. -/
lemma safe_countedDocument {d : Document} (hdb : w.db = L.db) (hplace : place < L.members)
    (hterritory : L.territory place d.id) (hd : d.WellFormed) (h : link.owner.Counts g) :
    Safe L.discipline (fun _ _ => True) place (w.writeDocument d)
      (fun _ g link => link.owner.Counts g) g link := by
  refine safe_bind (safe_putRevisions
    (fun _ current g link => link.owner.Counts g ∧ (current = none ∨ g.current d.id = current))
    hdb hd hplace hterritory ?_ ?_ ?_ ?_ ?_ _ ⟨h, Or.inl rfl⟩)
  · rintro passes current g link ⟨-, rfl | rfl⟩
    · exact Or.inl rfl
    · cases hdoc : g.documents d.id <;> simp [Share.current, hdoc]
  · intro passes current g link n _ h
    exact h
  · intro pass passes g link stored time h _ _
    refine ⟨⟨?_, h.1.conflicts⟩, Or.inr (Share.current_write_self ..)⟩
    have := h.1.writes
    show link.owner.stats.documentWrites + 1 + link.owner.stats.attachmentWrites = g.writes + 1
    omega
  · intro pass passes current g link h _
    exact safe_pure ⟨h.1.writes, h.1.conflicts⟩
  · rintro current g link ⟨h, hcurrent⟩
    cases current with
    | none => exact safe_pure h
    | some rev =>
      refine safe_uploadAttachments (fun _ g link => link.owner.Counts g) hdb ?_ ?_ ?_ ?_ _
        (hcurrent.resolve_left (by simp)) h
      · intro rest g link n h
        exact h
      · intro a rest g link stored time h _
        refine ⟨?_, h.conflicts⟩
        have := h.writes
        show link.owner.stats.documentWrites + (link.owner.stats.attachmentWrites + 1) =
          g.writes + 1
        omega
      · intro a rest g link h
        exact ⟨h.writes, h.conflicts⟩
      · intro g link h
        exact h

/-- A worker counts all that it writes. -/
theorem safe_balanced (hdb : w.db = L.db) (hplace : place < L.members)
    (hterritory : ∀ id, L.territory place id) (source : Entropy.Source) :
    (w.program source).Safe L.discipline (fun _ _ => True) Balanced place {} := by
  cases hbulk : w.config.usesBulk with
  | true =>
    have hassigned : w.Assigned L place False fun _ => "" :=
      ⟨hdb, hplace, fun _ _ _ _ => hterritory _, False.elim, False.elim⟩
    exact (safe_batchProgram hassigned hbulk source).mono (fun _ _ _ => trivial)
      fun g report h => ⟨h.writes, h.conflicts⟩
  | false =>
    have hwork : Safe L.discipline (fun _ _ => True) place w.work
        (fun _ g link => link.owner.Counts g) {} { owner := { source } } := by
      refine (safe_logic L.calm).holds_work trivial (fun h => by simp [hbulk] at h) fun _ => ?_
      refine (safe_logic L.calm).holds_writeEach (fun _ _ => trivial)
        (fun _ g link => link.owner.Counts g) ?_ ?_ _ ⟨rfl, rfl⟩
      · intro r e counters g link h _ _
        exact ⟨h.writes, h.conflicts⟩
      · intro r d counters g link h _ hmade
        exact safe_countedDocument hdb hplace (hterritory _) (Rendering.renders hmade).wellFormed
          ⟨h.writes, h.conflicts⟩
    refine Program.Safe.bind (Program.Safe.mono hwork (fun _ _ h => h) ?_)
    rintro g ⟨⟨⟩, link⟩ h
    exact ⟨h.writes, h.conflicts⟩

end Worker

/-! ### What a run counts -/

/-- The summary of a database counts what the database holds. -/
lemma Config.Summarizes.counts {c : Config} {S : Premise} {territory : Nat → String → Prop}
    {summary : DatabaseSummary} {entry : String × Database}
    (h : c.Summarizes S territory (fun _ => Worker.Balanced) summary entry) :
    summary.stats.documentWrites + summary.stats.attachmentWrites =
        entry.2.documents.total (·.history.length) ∧
      (S.distinct → summary.stats.conflictWrites =
        entry.2.documents.total (·.conflicts.length)) := by
  obtain ⟨reports, hashes, forged, G, hstats, hfills⟩ := h.filled
  have hwrites := Stats.map_total (f := fun s => s.documentWrites + s.attachmentWrites) rfl
    (fun s t => by simp only [Stats.add]; omega) (reports.map Report.stats)
  have hconflicts := Stats.map_total (f := (·.conflictWrites)) rfl (fun _ _ => rfl)
    (reports.map Report.stats)
  rw [← hstats, List.map_map] at hwrites hconflicts
  refine ⟨?_, fun hdistinct => ?_⟩
  · rw [hwrites, hfills.shared.writes, ← hfills.length]
    exact sum_map_eq_sum_range fun place r hr => (hfills.reported place r hr).writes
  · rw [hconflicts, hfills.shared.conflicts hdistinct, ← hfills.length]
    exact sum_map_eq_sum_range fun place r hr => (hfills.reported place r hr).conflicts

/-- The totals of a run are what the server holds at its end. The server counts its hashes with 64
bits, and the revisions that were made up and have got through to the server are different. -/
theorem totals_match_server (c : Config) (outages : Nat → Option Nat) {w : World Server}
    (hempty : w.server.databases = []) :
    let out := (Run.execute (unsteady outages).host c).run w
    let arrived := passed outages w.server.requests.size w.server.pendingFailures
      (out.2.server.requests.toList.drop w.server.requests.size)
    out.2.server.hashes < 2 ^ 64 → (arrived.flatMap Request.forged).Nodup →
    ∃ summary, out.1 = .ok summary ∧
      out.2.server.databases.total (fun d => d.documents.total (·.history.length)) =
        summary.totals.documentWrites + summary.totals.attachmentWrites ∧
      out.2.server.databases.total (fun d => d.documents.total (·.conflicts.length)) =
        summary.totals.conflictWrites := by
  intro out arrived hhashes hnodup
  set S : Premise := ⟨outages, w.server, True⟩
  have hpromises : c.Promises S (fun _ _ => True) fun _ => Worker.Balanced := by
    intro base db place worker source hworker
    obtain ⟨hdb, -, hpartition⟩ := Config.team_getElem? hworker
    exact Worker.safe_balanced hdb (List.getElem?_eq_some_iff.1 hpartition).1
      (fun _ => trivial) source
  have hin : S.Bounded out.2.server := ⟨hhashes, fun _ => hnodup⟩
  obtain ⟨summary, hok, hforall, -⟩ := execute_spec hpromises rfl hempty hin
  refine ⟨summary, hok, ?_, ?_⟩
  · have hwrites := Stats.map_total (f := fun s => s.documentWrites + s.attachmentWrites) rfl
      (fun s t => by simp only [Stats.add]; omega) (summary.databases.map DatabaseSummary.stats)
    rw [Summary.totals, hwrites, List.map_map]
    exact (sum_of_forall₂ hforall fun _ _ h => h.counts.1).symm
  · have hconflicts := Stats.map_total (f := (·.conflictWrites)) rfl (fun _ _ => rfl)
      (summary.databases.map DatabaseSummary.stats)
    rw [Summary.totals, hconflicts, List.map_map]
    exact (sum_of_forall₂ hforall fun _ _ h => h.counts.2 trivial).symm

/-- In the small run the first batch of a worker is dropped twice. Its document comes into being in
the second pass, so three revisions are written where there might have been four. -/
theorem totals_match_server_small :
    let w := World.fresh {} [[0, 1, 1, 0, 1, 0]]
    let outages := fun number => if number = 2 then some 2 else none
    let out := (Run.execute (unsteady outages).host Config.small).run w
    let arrived := passed outages w.server.requests.size w.server.pendingFailures
      (out.2.server.requests.toList.drop w.server.requests.size)
    w.server.databases = [] ∧ out.2.server.hashes < 2 ^ 64 ∧
      (arrived.flatMap Request.forged).Nodup ∧
      ∃ summary, out.1 = .ok summary ∧
        summary.totals =
          { documentWrites := 3, documentFailures := 1, conflictWrites := 2, reconnects := 1 } ∧
        out.2.server.databases.total (fun d => d.documents.total (·.history.length)) =
          summary.totals.documentWrites + summary.totals.attachmentWrites ∧
        out.2.server.databases.total (fun d => d.documents.total (·.conflicts.length)) =
          summary.totals.conflictWrites := by
  have hmatch := totals_match_server Config.small
    (fun number => if number = 2 then some 2 else none)
    (w := World.fresh {} [[0, 1, 1, 0, 1, 0]]) rfl
  have htotals : ((Run.execute (unsteady fun number => if number = 2 then some 2 else none).host
      Config.small).run (World.fresh {} [[0, 1, 1, 0, 1, 0]])).1.toOption.map Summary.totals =
        some { documentWrites := 3, documentFailures := 1, conflictWrites := 2
               reconnects := 1 } := by
    decide +kernel
  simp only at hmatch ⊢
  refine ⟨rfl, ?hashes, ?forged, ?summary⟩
  case hashes => decide +kernel
  case forged => decide +kernel
  case summary =>
    obtain ⟨summary, hok, hsums⟩ := hmatch (by decide +kernel) (by decide +kernel)
    rw [hok] at htotals
    exact ⟨summary, hok, Option.some.inj htotals, hsums⟩

end CouchLoad
