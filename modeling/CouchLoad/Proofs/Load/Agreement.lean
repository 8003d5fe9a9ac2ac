import CouchLoad.Proofs.Load.Batching
import CouchLoad.Proofs.Load.Partition

/-!
# Trackers and the server agree

Workers that fill an empty database in batches, side by side and in any order, know the current
revision of every document of the database between them: whatever is refused or lost on the way,
every document is known to exactly one worker, and what the worker knows is what the server holds.
-/

namespace CouchLoad

open Session

/-- What can be seen of a worker between two of its actions. -/
structure Standing where
  tracker : Tracker
  passes : Nat
  batches : Nat
  inFlight : Bool

/-- What can be seen of a worker whose work has come to some point. At the end all passes are
done. -/
def Worker.standing (c : Config) : Program (Link Progress) Report → Standing
  | .done report => ⟨report.tracker, c.revisions, 0, false⟩
  | .ask link _ _ =>
    ⟨link.owner.tracker, link.owner.passes, link.owner.batches, link.owner.inFlight⟩

/-- The workers of a database at their start, each with a source of randomness. -/
def Config.crew (c : Config) (db : String) (sources : Nat → Entropy.Source) :
    Pool Unit (Link Progress) Report :=
  (c.team db).mapIdx fun place w => ((), w.program (sources place))

namespace Standing

/-- Whenever no batch is in flight, the tracker is the share, and no document is further than the
passes say. -/
structure Matches (fixed : Prop) (s : Standing) (g : Share) : Prop where
  tracks : ∀ id, s.tracker.get? id = g.current id
  atMost : fixed → ∀ id, g.generation id ≤ s.passes + if s.batches = 0 then 0 else 1

lemma matches_of_safe {L : Site} {place : Nat} {fixed : Prop} {c : Config} {g : Share}
    {p : Program (Link Progress) Report}
    (h : p.Safe L.discipline (fun g link => link.owner.Informed fixed g)
      (Worker.Settled fixed c.revisions) place g)
    (hlanded : (Worker.standing c p).inFlight = false) : (Worker.standing c p).Matches fixed g := by
  cases p with
  | done report =>
    have hsettled : Worker.Settled fixed c.revisions g report := h
    exact ⟨hsettled.tracks, hsettled.atMost⟩
  | ask link action resume =>
    obtain ⟨htracks, hmost⟩ := h.1 hlanded
    exact ⟨htracks, hmost⟩

end Standing

/-- Where the team of a database works, on a server that may have outages. -/
def Config.site (c : Config) (db : String) (outages : Nat → Option Nat) (start : Server)
    (territory : Nat → String → Prop) : Site where
  premise := { outages, start, distinct := False }
  base := start.databases
  db
  members := (c.team db).length
  territory

/-- However far a team has come, its database falls into shares, and the trackers of all workers
match them. -/
lemma matches_of_advance {c : Config} (hbulk : c.usesBulk = true) (outages : Nat → Option Nat)
    {db : String} {security : Option Json} {w : World Server}
    (hempty : w.server.databases.get? db = some { documents := [], security })
    (sources : Nat → Entropy.Source) (schedule : List Nat) (territory : Nat → String → Prop)
    (fixed : Prop) (ids : Nat → String)
    (hassigned : ∀ (place : Nat) (worker : Worker), (c.team db)[place]? = some worker →
      worker.Assigned (c.site db outages w.server territory) place fixed ids)
    (hin : (((c.crew db sources).advance (fun _ => (Server.unsteady outages).perform)
      schedule).run w).2.server.hashes < 2 ^ 64) :
    ∃ documents hashes forged G,
      (∀ id, (((c.crew db sources).advance (fun _ => (Server.unsteady outages).perform)
        schedule).run w).2.server.document? db id = documents.get? id) ∧
      Shared (c.team db).length territory False documents hashes forged G ∧
      (((c.crew db sources).advance (fun _ => (Server.unsteady outages).perform)
        schedule).run w).1.length = (c.team db).length ∧
      ∀ place p, (((c.crew db sources).advance (fun _ => (Server.unsteady outages).perform)
          schedule).run w).1[place]? = some ((), p) →
        (Worker.standing c p).inFlight = false →
        (Worker.standing c p).Matches fixed (G place) := by
  set L := c.site db outages w.server territory with hL
  have hsafe : Pool.Safe L.discipline (fun g link => link.owner.Informed fixed g)
      (fun _ => Worker.Settled fixed c.revisions) 0 (fun _ => {}) (c.crew db sources) := by
    intro place p hp
    rw [Config.crew, List.getElem?_mapIdx, Option.map_eq_some_iff] at hp
    obtain ⟨worker, hworker, heq⟩ := hp
    cases heq
    obtain ⟨-, hconfig, -⟩ := Config.team_getElem? hworker
    rw [Nat.zero_add]
    have := Worker.safe_batchProgram (hassigned place worker hworker) (by rw [hconfig]; exact hbulk)
      (sources place)
    rwa [hconfig] at this
  have hholds : L.discipline.Holds w fun _ => {} := by
    refine ⟨L.premise.follows_start, [], security, ?_, Shared.empty⟩
    exact (Table.insert_get? hempty).symm
  obtain ⟨G, hholds', hsafe', hlength⟩ := hsafe.advance hholds schedule ⟨hin, False.elim⟩
  obtain ⟨-, documents, security', hdatabases, hshared⟩ := hholds'
  refine ⟨documents, _, _, G, ?_, hshared, ?_, ?_⟩
  · intro id
    unfold Server.document?
    have hget : Table.get? (((c.crew db sources).advance (fun _ =>
        (Server.unsteady outages).perform) schedule).run w).2.server.databases db =
          some { documents, security := security' } := by
      have heq : (((c.crew db sources).advance (fun _ => (Server.unsteady outages).perform)
          schedule).run w).2.server.databases =
            Table.insert w.server.databases db { documents, security := security' } := hdatabases
      rw [heq, Table.get?_insert_self]
    rw [hget]
    rfl
  · exact hlength.trans (by simp [Config.crew])
  · intro place p hp hlanded
    have := hsafe' place p hp
    rw [Nat.zero_add] at this
    exact Standing.matches_of_safe this hlanded

/-- A worker can be assigned its counters whatever their ids are. -/
lemma Config.assigned_any {c : Config} (outages : Nat → Option Nat) (start : Server) {db : String}
    {place : Nat} {w : Worker} (h : (c.team db)[place]? = some w) :
    w.Assigned (c.site db outages start fun _ _ => True) place False fun _ => "" := by
  obtain ⟨hdb, -, -⟩ := team_getElem? h
  exact ⟨hdb, (List.getElem?_eq_some_iff.1 h).1, fun _ _ _ _ => trivial, False.elim, False.elim⟩

/-- If every counter has an id of its own, each worker is assigned the ids that it owns. -/
lemma Config.assigned_owner {c : Config} (outages : Nat → Option Nat) (start : Server)
    {ids : Nat → String} (hids : ∀ counter ∈ c.counters, ∀ d, c.Renders counter d →
      d.id = ids counter)
    (hinjective : Set.InjOn ids { counter | counter ∈ c.counters }) {db : String} {place : Nat}
    {w : Worker} (h : (c.team db)[place]? = some w) :
    w.Assigned (c.site db outages start (c.Owns ids)) place True ids := by
  obtain ⟨hdb, hconfig, hpartition⟩ := team_getElem? h
  have hmem := mem_counters hpartition
  have hfixed : ∀ counter ∈ w.partition.counters, ∀ d, w.config.Renders counter d →
      d.id = ids counter := by
    intro counter hcounter d hd
    rw [hconfig] at hd
    exact hids counter (hmem hcounter) d hd
  refine ⟨hdb, (List.getElem?_eq_some_iff.1 h).1, ?_, fun _ => hfixed, fun _ => ?_⟩
  · intro counter hcounter d hd
    exact ⟨w.partition, counter, hpartition, hcounter, (hfixed counter hcounter d hd).symm⟩
  · exact List.Nodup.map_on (fun m hm n hn heq => hinjective (hmem hm) (hmem hn) heq)
      nodup_partition

/-- Trackers and the server agree at every moment at which no batch is in flight. If every counter
has an id of its own, no document of a worker is further than the passes of the worker, the one
under way included. The server counts its hashes with 64 bits. -/
theorem trackers_agree {c : Config} (hbulk : c.usesBulk = true) (outages : Nat → Option Nat)
    {db : String} {security : Option Json} {w : World Server}
    (hempty : w.server.databases.get? db = some { documents := [], security })
    (sources : Nat → Entropy.Source) (schedule : List Nat) :
    let out := ((c.crew db sources).advance (fun _ => (Server.unsteady outages).perform)
      schedule).run w
    out.2.server.hashes < 2 ^ 64 →
    (∀ (place : Nat) (p : Program (Link Progress) Report), out.1[place]? = some ((), p) →
      (Worker.standing c p).inFlight = false →
        ∀ id rev, (Worker.standing c p).tracker.get? id = some rev →
          ∃ d, out.2.server.document? db id = some d ∧ d.rev = rev) ∧
    ((∀ (place : Nat) (p : Program (Link Progress) Report), out.1[place]? = some ((), p) →
        (Worker.standing c p).inFlight = false) →
      ∀ id d, out.2.server.document? db id = some d →
        ∃! place : Nat, ∃ p, out.1[place]? = some ((), p) ∧
          ((Worker.standing c p).tracker.get? id).isSome) ∧
    ∀ ids : Nat → String, (∀ counter ∈ c.counters, ∀ d, c.Renders counter d → d.id = ids counter) →
      Set.InjOn ids { counter | counter ∈ c.counters } →
      ∀ (place : Nat) (worker : Worker) (p : Program (Link Progress) Report),
        (c.team db)[place]? = some worker → out.1[place]? = some ((), p) →
        (Worker.standing c p).inFlight = false →
        ∀ counter ∈ worker.partition.counters, ∀ d,
          out.2.server.document? db (ids counter) = some d →
          d.rev.generation ≤ (Worker.standing c p).passes +
            if (Worker.standing c p).batches = 0 then 0 else 1 := by
  intro out hin
  obtain ⟨documents, _, _, G, hdocument, hshared, hlength, hmatches⟩ :=
    matches_of_advance hbulk outages hempty sources schedule (fun _ _ => True) False _
      (fun _ _ hworker => Config.assigned_any outages w.server hworker) hin
  refine ⟨?_, ?_, ?_⟩
  · intro place p hp hlanded id rev hrev
    rw [(hmatches place p hp hlanded).tracks id] at hrev
    obtain ⟨d, hd, rfl⟩ := Option.map_eq_some_iff.1 hrev
    exact ⟨d, (hdocument id).trans (hshared.get?_eq hd), rfl⟩
  · intro hlanded id d hd
    rw [hdocument id] at hd
    obtain ⟨place, hplace⟩ := hshared.holder id d hd
    have hlt := (hshared.held place id d hplace).1
    rw [← hlength] at hlt
    refine ⟨place, ⟨_, List.getElem?_eq_getElem hlt, ?_⟩, ?_⟩
    · rw [(hmatches place _ (List.getElem?_eq_getElem hlt)
        (hlanded place _ (List.getElem?_eq_getElem hlt))).tracks id]
      simp [Share.current, hplace]
    · rintro other ⟨p, hp, hknown⟩
      rw [(hmatches other p hp (hlanded other p hp)).tracks id, Share.current,
        Option.isSome_map] at hknown
      obtain ⟨d', hd'⟩ := Option.isSome_iff_exists.1 hknown
      exact hshared.apart other place id d' d hd' hplace
  · intro ids hids hinjective place worker p hworker hp hlanded counter hcounter d hd
    clear hmatches hshared hdocument
    obtain ⟨documents, _, _, G, hdocument, hshared, -, hmatches⟩ :=
      matches_of_advance hbulk outages hempty sources schedule (c.Owns ids) True ids
        (fun _ _ h => Config.assigned_owner outages w.server hids hinjective h) hin
    rw [hdocument] at hd
    obtain ⟨holder, hholder⟩ := hshared.holder _ d hd
    -- only the worker of the counter can hold the document
    obtain ⟨-, howns, -⟩ := hshared.held holder _ d hholder
    obtain ⟨-, -, hpartition⟩ := Config.team_getElem? hworker
    have hplace : holder = place := by
      apply Config.Owns.unique hinjective howns
      exact ⟨_, counter, hpartition, hcounter, rfl⟩
    rw [hplace] at hholder
    have := (hmatches place p hp hlanded).atMost trivial (ids counter)
    simpa [Share.generation, Share.current, hholder] using this

/-- The workers of the small run take turns until both are done, while three requests are
dropped. -/
theorem trackers_agree_small :
    let c := Config.small
    let w := World.fresh { databases := [("testdb", {})] } []
    let outages := fun number => if number = 1 then some 3 else none
    let schedule := (List.range 40).map (· % 2)
    let out := ((c.crew "testdb" w.sources).advance (fun _ => (Server.unsteady outages).perform)
      schedule).run w
    c.usesBulk = true ∧ w.server.databases.get? "testdb" = some {} ∧
      out.2.server.hashes < 2 ^ 64 ∧
      (∀ entry ∈ out.1, (Worker.standing c entry.2).inFlight = false) ∧
      (∀ entry ∈ out.1, (Worker.standing c entry.2).tracker ≠ []) ∧
      (∀ (place : Nat) (p : Program (Link Progress) Report), out.1[place]? = some ((), p) →
        ∀ id rev, (Worker.standing c p).tracker.get? id = some rev →
          ∃ d, out.2.server.document? "testdb" id = some d ∧ d.rev = rev) ∧
      (∀ id d, out.2.server.document? "testdb" id = some d →
        ∃! place : Nat, ∃ p, out.1[place]? = some ((), p) ∧
          ((Worker.standing c p).tracker.get? id).isSome) ∧
      ∀ (place : Nat) (worker : Worker) (p : Program (Link Progress) Report),
        (c.team "testdb")[place]? = some worker → out.1[place]? = some ((), p) →
        ∀ counter ∈ worker.partition.counters, ∀ d,
          out.2.server.document? "testdb" (toString counter) = some d →
          d.rev.generation ≤ (Worker.standing c p).passes +
            if (Worker.standing c p).batches = 0 then 0 else 1 := by
  have hagree := @trackers_agree Config.small rfl
    (fun number => if number = 1 then some 3 else none) "testdb" none
    (World.fresh { databases := [("testdb", {})] } []) rfl
    (World.fresh { databases := [("testdb", {})] } []).sources ((List.range 40).map (· % 2))
  simp only at hagree ⊢
  have hlanded : ∀ entry ∈ (((Config.small.crew "testdb"
      (World.fresh { databases := [("testdb", {})] } []).sources).advance (fun _ => (Server.unsteady
        fun number => if number = 1 then some 3 else none).perform)
      ((List.range 40).map (· % 2))).run (World.fresh { databases := [("testdb", {})] } [])).1,
      (Worker.standing Config.small entry.2).inFlight = false := by
    decide +kernel
  obtain ⟨htracked, hknown, hpasses⟩ := hagree (by decide +kernel)
  refine ⟨rfl, rfl, by decide +kernel, hlanded, by decide +kernel, ?_, hknown ?_, ?_⟩
  · intro place p hp
    exact htracked place p hp (hlanded _ (List.mem_of_getElem? hp))
  · intro place p hp
    exact hlanded _ (List.mem_of_getElem? hp)
  · intro place worker p hworker hp
    exact hpasses toString
      (fun counter hcounter d hd => by rw [Config.renders_small hcounter hd])
      Text.toString_injective.injOn place worker p hworker hp
      (hlanded _ (List.mem_of_getElem? hp))

end CouchLoad
