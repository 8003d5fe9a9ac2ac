import CouchLoad.Proofs.Load.Accounting
import CouchLoad.Proofs.Load.BatchCompletion
import Mathlib.Algebra.BigOperators.Ring.List

/-!
# The state at the end of a run

On a server that drops nothing, a run whose template gives every counter a document of its own, or
none at all, ends in a state that does not depend on the number of workers, on the size of batches
or on the order of requests: every database holds one document for each counter that can be
rendered, with all its revisions and conflicts, and nothing else. What the run reports is known in
advance, too.
-/

namespace CouchLoad

open Server

/-! ### Sums over workers and databases -/

lemma Stats.total_counted {α : Type} (writes failures conflicts : α → Nat) (l : List α) :
    Stats.total (l.map fun x => Stats.counted (writes x) (failures x) (conflicts x)) =
      Stats.counted (l.map writes).sum (l.map failures).sum (l.map conflicts).sum := by
  have hfold : ∀ a b k : Nat,
      (l.map fun x => Stats.counted (writes x) (failures x) (conflicts x)).foldl Stats.add
          (Stats.counted a b k) =
        Stats.counted (a + (l.map writes).sum) (b + (l.map failures).sum)
          (k + (l.map conflicts).sum) := by
    induction l with
    | nil => intro a b k; rfl
    | cons x l ih =>
      intro a b k
      have hadd : (Stats.counted a b k).add (Stats.counted (writes x) (failures x) (conflicts x)) =
          Stats.counted (a + writes x) (b + failures x) (k + conflicts x) := rfl
      simp only [List.map_cons, List.foldl_cons, List.sum_cons]
      rw [hadd, ih, Nat.add_assoc, Nat.add_assoc, Nat.add_assoc]
  have hstart := hfold 0 0 0
  rw [Nat.zero_add, Nat.zero_add, Nat.zero_add] at hstart
  exact hstart

/-- What is said of summaries and their databases together holds of each of them. -/
lemma forall_of_forall₂ {α β : Type} {R : α → β → Prop} {p : α → Prop} {q : β → Prop}
    {l : List α} {l' : List β} (hl : List.Forall₂ R l l') (h : ∀ a b, R a b → p a ∧ q b) :
    (∀ a ∈ l, p a) ∧ ∀ b ∈ l', q b := by
  induction hl with
  | nil => simp
  | cons hab _ ih =>
    obtain ⟨ha, hb⟩ := h _ _ hab
    exact ⟨List.forall_mem_cons.2 ⟨ha, ih.1⟩, List.forall_mem_cons.2 ⟨hb, ih.2⟩⟩

namespace Config

/-- What is counted in all partitions is counted among all counters. -/
lemma sum_countP {c : Config} (h : c.workers ≠ 0)
    (hfits : c.firstCounter.toNat + c.documents.toNat < UInt64.size) (factor : Nat)
    (p : Nat → Bool) :
    (c.partitions.map fun partition => factor * partition.counters.countP p).sum =
      factor * c.counters.countP p := by
  rw [List.sum_map_mul_left, ← flatMap_partitions h hfits, List.countP_flatMap]
  rfl

lemma length_databaseNames (c : Config) : c.databaseNames.length = c.databases.toNat := by
  unfold databaseNames
  split
  · rename_i h
    rw [h]
    rfl
  · rw [List.length_map, List.length_range]

/-- Every id has one owner, so nobody else writes the ids of a worker. -/
lemma posted {c : Config} {ids : Nat → String} (hinjective : Set.InjOn ids { n | n ∈ c.counters })
    {S : Premise} (hsteady : S.Steady) (hdistinct : S.distinct) (base : Table Database)
    {db : String} {place : Nat} {w : Worker} (hw : (c.team db)[place]? = some w) :
    w.Posted c ids ⟨S, base, db, c.partitions.length, c.Owns ids⟩ place := by
  obtain ⟨hdb, hconfig, hpartition⟩ := team_getElem? hw
  refine ⟨hconfig, hdb, (List.getElem?_eq_some_iff.1 hpartition).1, mem_counters hpartition,
    fun counter hcounter => ⟨_, _, hpartition, hcounter, rfl⟩, ?_, hsteady, hdistinct⟩
  rintro counter hcounter ⟨other, hother, howns⟩
  exact hother (howns.unique hinjective ⟨_, _, hpartition, hcounter, rfl⟩)

/-- The documents of a database at the end of a run. -/
structure Complete (c : Config) (ids : Nat → String) (renders : Nat → Bool)
    (documents : Table StoredDocument) : Prop where
  nodup : documents.keys.Nodup
  keys : ∀ id, id ∈ documents.keys ↔ ∃ counter ∈ c.counters, renders counter ∧ ids counter = id
  staged : ∀ counter ∈ c.counters, renders counter → ∃ stored,
    documents.get? (ids counter) = some stored ∧
      stored.Staged c counter c.revisions c.conflicts

/-- What the workers of a database count together. -/
def expected (c : Config) (renders : Nat → Bool) : Stats :=
  Stats.counted (c.revisions * rendered renders c.counters)
    ((if c.usesBulk then c.revisions else 1) * unrendered renders c.counters)
    (c.conflicts * rendered renders c.counters)

/-- The partition at a place belongs to a worker that has completed its work. -/
def CompletedAt (c : Config) (ids : Nat → String) (renders : Nat → Bool) (place : Nat) (g : Share)
    (report : Report) : Prop :=
  ∀ partition, c.partitions[place]? = some partition →
    Worker.Completed c ids renders partition.counters g report

variable {c : Config} {ids : Nat → String} {renders : Nat → Bool} {S : Premise}

/-- If all workers have completed their work, the database is complete. -/
lemma Fills.complete {database : Database} {reports : List Report} {hashes : Nat}
    {forged : List String} {G : Nat → Share} (h : c.workers ≠ 0)
    (hfits : c.firstCounter.toNat + c.documents.toNat < UInt64.size)
    (hrevisions : c.revisions ≠ 0)
    (hfills : c.Fills S (c.Owns ids) (c.CompletedAt ids renders) database reports hashes forged G) :
    c.Complete ids renders database.documents := by
  have hcompleted : ∀ place partition, c.partitions[place]? = some partition → ∃ report,
      Worker.Completed c ids renders partition.counters (G place) report := by
    intro place partition hpartition
    have hlt : place < reports.length := by
      rw [hfills.length]
      exact (List.getElem?_eq_some_iff.1 hpartition).1
    exact ⟨_, hfills.reported place _ (List.getElem?_eq_getElem hlt) partition hpartition⟩
  have hstaged : ∀ counter ∈ c.counters, renders counter → ∃ stored,
      database.documents.get? (ids counter) = some stored ∧
        stored.Staged c counter c.revisions c.conflicts := by
    intro counter hcounter hrenders
    rw [← flatMap_partitions h hfits, List.mem_flatMap] at hcounter
    obtain ⟨partition, hmem, hcounter⟩ := hcounter
    obtain ⟨place, hplace⟩ := List.mem_iff_getElem?.1 hmem
    obtain ⟨report, hreport⟩ := hcompleted place partition hplace
    obtain ⟨stored, hstored, hstage⟩ :=
      (hreport.staged counter hcounter hrenders).exists (Nat.pos_of_ne_zero hrevisions)
    exact ⟨stored, hfills.shared.get?_eq hstored, hstage⟩
  refine ⟨hfills.shared.nodup, fun id => ⟨?_, ?_⟩, hstaged⟩
  · intro hid
    obtain ⟨stored, hstored⟩ := Option.isSome_iff_exists.1 (Table.isSome_get?_iff.2 hid)
    obtain ⟨place, hplace⟩ := hfills.shared.holder id stored hstored
    obtain ⟨-, ⟨partition, -, hpartition, -⟩, -⟩ := hfills.shared.held place id stored hplace
    obtain ⟨report, hreport⟩ := hcompleted place partition hpartition
    obtain ⟨counter, hcounter, hrest⟩ := hreport.only id stored hplace
    exact ⟨counter, mem_counters hpartition hcounter, hrest⟩
  · rintro ⟨counter, hcounter, hrenders, rfl⟩
    obtain ⟨stored, hstored, -⟩ := hstaged counter hcounter hrenders
    exact Table.mem_keys_of_get? hstored

/-- If all workers have completed their work, they have counted what is expected. -/
lemma Fills.total_stats {database : Database} {reports : List Report} {hashes : Nat}
    {forged : List String} {G : Nat → Share} (h : c.workers ≠ 0)
    (hfits : c.firstCounter.toNat + c.documents.toNat < UInt64.size)
    (hfills : c.Fills S (c.Owns ids) (c.CompletedAt ids renders) database reports hashes forged G) :
    Stats.total (reports.map Report.stats) = c.expected renders := by
  have hstats : reports.map Report.stats = c.partitions.map fun partition =>
      Stats.counted (c.revisions * rendered renders partition.counters)
        ((if c.usesBulk then c.revisions else 1) * unrendered renders partition.counters)
        (c.conflicts * rendered renders partition.counters) := by
    refine List.ext_getElem (by simp [hfills.length]) fun place hlt hlt' => ?_
    rw [List.length_map] at hlt hlt'
    rw [List.getElem_map, List.getElem_map]
    exact (hfills.reported place _ (List.getElem?_eq_getElem hlt) _
      (List.getElem?_eq_getElem hlt')).stats
  rw [hstats, Stats.total_counted]
  unfold rendered unrendered
  rw [sum_countP h hfits, sum_countP h hfits, sum_countP h hfits]
  rfl

end Config

/-- Without outages nothing is dropped. -/
lemma Server.passed_none (number : Nat) (rs : List Request) :
    passed (fun _ => none) number 0 rs = rs := by
  induction rs generalizing number with
  | nil => rfl
  | cons r rs ih =>
    rw [passed]
    exact congrArg (r :: ·) (ih (number + 1))

/-- The state at the end of a whole run. The databases of the run are there and no others, each of
them is complete, and the totals are those of one database times their number. The server counts
its hashes with 64 bits, and the revisions that were made up are different. -/
theorem execute_completes {c : Config} {ids : Nat → String} {renders : Nat → Bool}
    (hvalid : c.validate = .ok ())
    (hfits : c.firstCounter.toNat + c.documents.toNat < UInt64.size)
    (hc : c.Uniform ids renders) {w : World Server}
    (hempty : w.server.databases = []) (hpending : w.server.pendingFailures = 0) :
    let out := (Run.execute backend.host c).run w
    let arrived := out.2.server.requests.toList.drop w.server.requests.size
    out.2.server.hashes < 2 ^ 64 → (arrived.flatMap Request.forged).Nodup →
    out.2.server.databases.keys = c.databaseNames ∧ c.databaseNames.Nodup ∧
      c.databaseNames.length = c.databases.toNat ∧
      (∀ entry ∈ out.2.server.databases, c.Complete ids renders entry.2.documents) ∧
      ∃ summary, out.1 = .ok summary ∧ summary.totals =
        { documentWrites := c.databases.toNat * (c.revisions * c.counters.countP renders)
          documentFailures := c.databases.toNat *
            ((if c.usesBulk then c.revisions else 1) * c.counters.countP fun n => !renders n)
          conflictWrites := c.databases.toNat * (c.conflicts * c.counters.countP renders) } := by
  intro out arrived hhashes hnodup
  set S : Premise := ⟨fun _ => none, w.server, True⟩ with hS
  have hsteady : S.Steady := ⟨rfl, hpending⟩
  obtain ⟨hworkers, hrevisions, -⟩ := Config.bounds_of_validate hvalid
  have hpromises : c.Promises S (c.Owns ids) (c.CompletedAt ids renders) := by
    intro base db place worker source hworker
    obtain ⟨-, -, hpartition⟩ := Config.team_getElem? hworker
    refine (Worker.safe_completed hvalid hc
      (Config.posted hc.injective hsteady trivial base hworker) source).mono
      (fun _ _ h => h) fun g report h => ?_
    intro partition hpartition'
    rw [hpartition, Option.some.injEq] at hpartition'
    rwa [← hpartition']
  have hin : S.Bounded out.2.server := by
    refine ⟨hhashes, fun _ => ?_⟩
    show ((passed (fun _ => none) w.server.requests.size w.server.pendingFailures
      arrived).flatMap Request.forged).Nodup
    rwa [hpending, passed_none]
  obtain ⟨summary, hok, hforall, hkeys⟩ := execute_spec hpromises rfl hempty hin
  have hnames : out.2.server.databases.keys = c.databaseNames := hkeys hsteady
  have heach := forall_of_forall₂ (p := fun s => s.stats = c.expected renders)
    (q := fun entry => c.Complete ids renders entry.2.documents) hforall
    fun summary entry h => by
      obtain ⟨reports, hashes, forged, G, hstats, hfills⟩ := h.filled
      exact ⟨hstats.trans (hfills.total_stats hworkers hfits),
        hfills.complete hworkers hfits hrevisions⟩
  refine ⟨hnames, nodup_databaseNames c, c.length_databaseNames, heach.2, summary, hok, ?_⟩
  have hlength : summary.databases.length = c.databases.toNat := by
    rw [hforall.length_eq, ← c.length_databaseNames, ← hnames]
    exact (List.length_map _).symm
  have hstats : summary.databases.map DatabaseSummary.stats =
      summary.databases.map fun _ => c.expected renders := List.map_congr_left heach.1
  rw [Summary.totals, hstats]
  unfold Config.expected
  rw [Stats.total_counted]
  simp only [List.map_const', List.sum_replicate_nat, hlength]
  rfl

/-- The small run gives every counter a document of its own. -/
lemma Config.uniform_small : small.Uniform toString fun _ => true where
  always counter hcounter := by
    rw [if_pos rfl]
    rintro ⟨files, fresh, s, e, he⟩
    rw [render_small hcounter] at he
    cases he
  id_eq counter hcounter d hd := by rw [renders_small hcounter hd]
  ne_security := by decide
  attachments counter hcounter d hd := by rw [renders_small hcounter hd]
  injective := Text.toString_injective.injOn

theorem execute_completes_small :
    let w := World.fresh {} [[0, 1, 1, 0, 1, 0]]
    let out := (Run.execute backend.host Config.small).run w
    let arrived := out.2.server.requests.toList.drop w.server.requests.size
    Config.small.validate = .ok () ∧
      Config.small.firstCounter.toNat + Config.small.documents.toNat < UInt64.size ∧
      Config.small.Uniform toString (fun _ => true) ∧
      w.server.databases = [] ∧ w.server.pendingFailures = 0 ∧
      out.2.server.hashes < 2 ^ 64 ∧ (arrived.flatMap Request.forged).Nodup ∧
      out.2.server.databases.keys = ["testdb"] ∧
      (∀ entry ∈ out.2.server.databases,
        Config.small.Complete toString (fun _ => true) entry.2.documents) ∧
      ∃ summary, out.1 = .ok summary ∧
        summary.totals = { documentWrites := 4, conflictWrites := 2 } := by
  have hcompletes := execute_completes (c := Config.small) rfl (by decide) Config.uniform_small
    (w := World.fresh {} [[0, 1, 1, 0, 1, 0]]) rfl rfl
  simp only at hcompletes ⊢
  refine ⟨rfl, by decide, Config.uniform_small, rfl, rfl, ?hashes, ?forged,
    (hcompletes ?hashes ?forged).1, (hcompletes ?hashes ?forged).2.2.2⟩
  case hashes => decide +kernel
  case forged => decide +kernel

end CouchLoad
