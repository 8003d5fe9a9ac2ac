import CouchLoad.Proofs.Load.Administration
import CouchLoad.Proofs.Load.Partition

/-!
# Whole runs

If every worker of a run keeps to the discipline of its team, then each database that the run has
created falls into shares, its workers end as they have promised, and its summary adds up what they
report. The databases are there in the order of their names, behind those that were there before.
-/

namespace CouchLoad

open Server

/-- All workers of a run keep to the discipline of their team, whatever the other databases hold,
and end with a report as said. -/
def Config.Promises (c : Config) (S : Premise) (territory : Nat → String → Prop)
    (post : Nat → Share → Report → Prop) : Prop :=
  ∀ (base : Table Database) (db : String) (place : Nat) (worker : Worker) (source : Entropy.Source),
    (c.team db)[place]? = some worker →
    (worker.program source).Safe (Site.discipline ⟨S, base, db, c.partitions.length, territory⟩)
      (fun _ _ => True) (post place) place {}

/-- A database that has been filled: it falls into shares, and the workers have ended as said. -/
structure Config.Fills (c : Config) (S : Premise) (territory : Nat → String → Prop)
    (post : Nat → Share → Report → Prop) (database : Database) (reports : List Report)
    (hashes : Nat) (forged : List String) (G : Nat → Share) : Prop where
  shared : Shared c.partitions.length territory S.distinct database.documents hashes forged G
  length : reports.length = c.partitions.length
  reported : ∀ place r, reports[place]? = some r → post place (G place) r

/-- A summary that belongs to a database. -/
structure Config.Summarizes (c : Config) (S : Premise) (territory : Nat → String → Prop)
    (post : Nat → Share → Report → Prop) (summary : DatabaseSummary)
    (entry : String × Database) : Prop where
  name : summary.name = entry.1
  documents : summary.documents = c.documents
  filled : ∃ reports hashes forged G, summary.stats = Stats.total (reports.map Report.stats) ∧
    c.Fills S territory post entry.2 reports hashes forged G

section Runs

variable {S : Premise} {c : Config} {territory : Nat → String → Prop}
  {post : Nat → Share → Report → Prop} {w : World Server}

lemma run_bind {ω α β : Type} (m : StateM ω α) (f : α → StateM ω β) (w : ω) :
    (m >>= f).run w = (f (m.run w).1).run (m.run w).2 := rfl

/-- Hiring opens a connection for every worker and takes a source of randomness for each. -/
lemma run_hire (outages : Nat → Option Nat) (workers : List Worker) (w : World Server) :
    (Run.hire (unsteady outages).host workers).run w =
      (.ok (workers.mapIdx fun i worker => ((), worker.program (w.sources (w.sourcesTaken + i)))),
        { w with sourcesTaken := w.sourcesTaken + workers.length }) := by
  induction workers generalizing w with
  | nil => rfl
  | cons worker workers ih =>
    have hrun : (Run.hire (unsteady outages).host (worker :: workers)).run w =
        let out := (Run.hire (unsteady outages).host workers).run
          { w with sourcesTaken := w.sourcesTaken + 1 }
        (out.1.map ((((), worker.program (w.sources w.sourcesTaken))) :: ·), out.2) := rfl
    rw [hrun, ih]
    simp only [Except.map, List.mapIdx_cons, List.length_cons, Nat.add_zero, Nat.add_assoc,
      Nat.add_comm 1]

lemma regular_hire (workers : List Worker) :
    S.Regular (Run.hire (unsteady S.outages).host workers) := by
  intro w hin
  rwa [run_hire] at hin

lemma server_nextSchedule (w : World Server) : (World.nextSchedule w).2.server = w.server := by
  unfold World.nextSchedule
  split <;> rfl

lemma regular_together (pool : Pool Unit (Link Progress) Report) :
    S.Regular ((unsteady S.outages).host.together pool) := by
  intro w hin
  rw [← server_nextSchedule w]
  exact Pool.within_of_advance (d := S.admin) pool _ (Pool.within_of_finish (d := S.admin) _ hin)

lemma regular_fill (db : String) : S.Regular (Run.fill (unsteady S.outages).host c () db) := by
  refine S.regular_session.bind fun _ => (regular_hire _).bind fun hired => ?_
  cases hired with
  | error e => exact Premise.Regular.pure _
  | ok pool =>
    exact (regular_together pool).bind fun _ => S.regular_session.bind fun _ =>
      S.regular_session.bind fun _ => Premise.Regular.pure _

lemma regular_populate (db : String) :
    S.Regular (Run.populate (unsteady S.outages).host c () db) := by
  refine S.regular_session.bind fun _ => S.regular_session.bind fun _ =>
    S.regular_session.bind fun created => ?_
  cases created with
  | false => exact Premise.Regular.pure _
  | true =>
    refine (regular_fill db).bind fun filled => ?_
    cases filled with
    | error e => exact Premise.Regular.pure _
    | ok reports =>
      exact S.regular_session.bind fun _ => S.regular_session.bind fun _ =>
        Premise.Regular.pure _

lemma regular_populateAll (done : Summary) (dbs : List String) :
    S.Regular (Run.populateAll (unsteady S.outages).host c () done dbs) := by
  induction dbs generalizing done with
  | nil => exact Premise.Regular.pure _
  | cons db dbs ih =>
    refine (regular_populate db).bind fun populated => ?_
    match populated with
    | .error e => exact Premise.Regular.pure _
    | .ok none => exact ih _
    | .ok (some (summary, reports)) => exact ih _

/-- The steps of filling a database. -/
lemma run_fill (outages : Nat → Option Nat) (db : String) (w : World Server) :
    let host := (unsteady outages).host
    let announced := ((host.session () (c.announce db)).run w).2
    let pool : Pool Unit (Link Progress) Report := (c.team db).mapIdx fun i worker =>
      ((), worker.program (announced.sources (announced.sourcesTaken + i)))
    let worked := (host.together pool).run
      { announced with sourcesTaken := announced.sourcesTaken + (c.team db).length }
    let recounted := ((host.session () (Config.recount worked.1)).run worked.2).2
    (Run.fill host c () db).run w =
      (.ok worked.1, ((host.session () (c.secure db)).run recounted).2) := by
  intro host announced pool worked recounted
  unfold Run.fill
  rw [run_bind, run_bind, run_hire]
  rfl

/-- What workers come to that start together on an empty database. -/
lemma together_spec {base : Table Database} {db : String} {members : Nat}
    {pool : Pool Unit (Link Progress) Report}
    (hpool : Pool.Safe (Site.discipline ⟨S, base, db, members, territory⟩) (fun _ _ => True) post 0
      (fun _ => {}) pool)
    (hw : S.Follows w.server) (hdb : w.server.databases = base.insert db {})
    (hin : S.Bounded (((unsteady S.outages).host.together pool).run w).2.server) :
    let worked := ((unsteady S.outages).host.together pool).run w
    ∃ G, S.Follows worked.2.server ∧
      Site.State ⟨S, base, db, members, territory⟩ worked.2.server.databases worked.2.server.hashes
        (S.forged worked.2.server) G ∧
      worked.1.length = pool.length ∧ ∀ place report, worked.1[place]? = some report →
        post place (G place) report := by
  intro worked
  set schedule := (World.nextSchedule w).1
  set next := (World.nextSchedule w).2
  have hrun : worked =
      (pool.run (fun _ => (unsteady S.outages).perform) schedule).run next := rfl
  have hholds : Discipline.Holds (Site.discipline ⟨S, base, db, members, territory⟩) next
      fun _ => {} := by
    show S.Follows next.server ∧ Site.State ⟨S, base, db, members, territory⟩
      next.server.databases next.server.hashes (S.forged next.server) fun _ => {}
    rw [server_nextSchedule]
    exact ⟨hw, [], none, hdb, Shared.empty⟩
  obtain ⟨G, ⟨hfollows, hstate⟩, hlength, hreports⟩ := hpool.run hholds schedule hin
  rw [hrun]
  exact ⟨G, hfollows, hstate, hlength, hreports⟩

/-- What filling a database that has just been created comes to. -/
lemma fill_spec (hpromises : c.Promises S territory post) (hw : S.Follows w.server)
    {base : Table Database} {db : String} (hdb : w.server.databases = base.insert db {})
    (hin : S.Bounded ((Run.fill (unsteady S.outages).host c () db).run w).2.server) :
    S.Follows ((Run.fill (unsteady S.outages).host c () db).run w).2.server ∧
      ∃ reports database hashes forged G,
        ((Run.fill (unsteady S.outages).host c () db).run w).1 = .ok reports ∧
        ((Run.fill (unsteady S.outages).host c () db).run w).2.server.databases =
          base.insert db database ∧
        c.Fills S territory post database reports hashes forged G := by
  rw [run_fill] at hin ⊢
  simp only at hin ⊢
  set announced := (((unsteady S.outages).host.session () (c.announce db)).run w).2
  set pool : Pool Unit (Link Progress) Report := (c.team db).mapIdx fun i worker =>
    ((), worker.program (announced.sources (announced.sourcesTaken + i))) with hpool
  set hired : World Server :=
    { announced with sourcesTaken := announced.sourcesTaken + (c.team db).length }
  set worked := ((unsteady S.outages).host.together pool).run hired
  set recounted :=
    (((unsteady S.outages).host.session () (Config.recount worked.1)).run worked.2).2
  -- the bounds at the end are bounds all the way
  have hin₄ : S.Bounded recounted.server := S.regular_session _ hin
  have hin₃ : S.Bounded worked.2.server := S.regular_session _ hin₄
  have hin₁ : S.Bounded announced.server := regular_together pool hired hin₃
  obtain ⟨hf₁, _, hdb₁⟩ := S.session_spec (safe_announce c) hw hdb hin₁
  set L : Site := ⟨S, base, db, c.partitions.length, territory⟩
  have hsafe : Pool.Safe L.discipline (fun _ _ => True) post 0 (fun _ => {}) pool := by
    intro place p hp
    rw [hpool, List.getElem?_mapIdx, Option.map_eq_some_iff] at hp
    obtain ⟨worker, hworker, heq⟩ := hp
    cases heq
    rw [Nat.zero_add]
    exact hpromises base db place worker _ hworker
  obtain ⟨G, hf₃, ⟨documents, security, hdb₃, hshared⟩, hlength, hreports⟩ :=
    together_spec (w := hired) hsafe hf₁ hdb₁ hin₃
  obtain ⟨hf₄, _, hdb₄⟩ := S.session_spec (safe_recount worked.1) hf₃ hdb₃ hin₄
  obtain ⟨hf₅, _, security', hdb₅⟩ := S.session_spec (safe_secure c rfl) hf₄ hdb₄ hin
  refine ⟨hf₅, worked.1, _, _, _, G, rfl, hdb₅, hshared, ?_, hreports⟩
  rw [hlength, hpool, List.length_mapIdx, Config.team, List.length_mapIdx]

/-- What the steps before a database is filled come to. -/
lemma create_spec (hw : S.Follows w.server) {base : Table Database} {db : String}
    (hbase : w.server.databases = base) (hdb : db ∉ base.keys) :
    let host := (unsteady S.outages).host
    let started := (Run.clock host ()).run w
    let cleared := ((host.session () (c.clear db)).run started.2).2
    let created := (host.session () (Config.create db)).run cleared
    S.Bounded created.2.server → S.Follows created.2.server ∧
      (created.1 = true ∧ created.2.server.databases = base.insert db {} ∨
        created.1 = false ∧ created.2.server.databases = base ∧ ¬S.Steady) := by
  intro host started cleared created hin₃
  have hin₂ : S.Bounded cleared.server := S.regular_session _ hin₃
  have hin₁ : S.Bounded started.2.server := S.regular_session _ hin₂
  obtain ⟨hf₁, _, hdb₁⟩ := S.session_spec safe_adminClock hw hbase hin₁
  obtain ⟨hf₂, _, hdb₂⟩ := S.session_spec (safe_clear c hdb) hf₁ hdb₁ hin₂
  obtain ⟨hf₃, _, hcreated⟩ := S.session_spec (safe_create hdb) hf₂ hdb₂ hin₃
  exact ⟨hf₃, hcreated⟩

/-- The steps of creating a database and, if that succeeds, filling it. -/
lemma run_populate (outages : Nat → Option Nat) (db : String) (w : World Server) :
    let host := (unsteady outages).host
    let started := (Run.clock host ()).run w
    let cleared := ((host.session () (c.clear db)).run started.2).2
    let created := (host.session () (Config.create db)).run cleared
    let filled := (Run.fill host c () db).run created.2
    let ended := (Run.clock host ()).run filled.2
    let summary := fun reports : List Report =>
      { name := db, documents := c.documents
        stats := Stats.total (reports.map Report.stats), elapsed := ended.1 - started.1 }
    (Run.populate host c () db).run w =
      if created.1 then
        match filled.1 with
        | .error e => (.error e, filled.2)
        | .ok reports => (.ok (some (summary reports, reports)),
            ((host.session () (Config.note .info (summary reports).display)).run ended.2).2)
      else (.ok none, created.2) := by
  intro host started cleared created filled ended summary
  unfold Run.populate
  rw [run_bind, run_bind, run_bind]
  cases created.1 with
  | false => rfl
  | true =>
    rw [if_pos rfl, if_pos rfl, run_bind]
    cases filled.1 <;> rfl

/-- What creating and filling a database comes to. -/
lemma populate_spec (hpromises : c.Promises S territory post) (hw : S.Follows w.server)
    {base : Table Database} {db : String} (hbase : w.server.databases = base)
    (hdb : db ∉ base.keys)
    (hin : S.Bounded ((Run.populate (unsteady S.outages).host c () db).run w).2.server) :
    S.Follows ((Run.populate (unsteady S.outages).host c () db).run w).2.server ∧
      ((((Run.populate (unsteady S.outages).host c () db).run w).1 = .ok none ∧ ¬S.Steady ∧
          ((Run.populate (unsteady S.outages).host c () db).run w).2.server.databases = base) ∨
        ∃ summary reports database,
          ((Run.populate (unsteady S.outages).host c () db).run w).1 =
            .ok (some (summary, reports)) ∧
          ((Run.populate (unsteady S.outages).host c () db).run w).2.server.databases =
            base ++ [(db, database)] ∧
          c.Summarizes S territory post summary (db, database)) := by
  have hcreate := create_spec (c := c) hw hbase hdb
  rw [run_populate] at hin ⊢
  simp only at hcreate hin ⊢
  set started := (Run.clock (unsteady S.outages).host ()).run w
  set created := ((unsteady S.outages).host.session () (Config.create db)).run
    (((unsteady S.outages).host.session () (c.clear db)).run started.2).2
  set filled := (Run.fill (unsteady S.outages).host c () db).run created.2
  set ended := (Run.clock (unsteady S.outages).host ()).run filled.2
  cases hmade : created.1 with
  | false =>
    rw [hmade, if_neg Bool.false_ne_true] at hin
    rw [if_neg Bool.false_ne_true]
    obtain ⟨hf, ⟨hmade', -⟩ | ⟨-, hdb', hsteady⟩⟩ := hcreate hin
    · rw [hmade] at hmade'
      cases hmade'
    · exact ⟨hf, Or.inl ⟨rfl, hsteady, hdb'⟩⟩
  | true =>
    rw [hmade, if_pos rfl] at hin
    rw [if_pos rfl]
    have hfill : S.Bounded filled.2.server → S.Follows filled.2.server ∧
        ∃ reports database hashes forged G, filled.1 = .ok reports ∧
          filled.2.server.databases = base.insert db database ∧
          c.Fills S territory post database reports hashes forged G := by
      intro hin₄
      obtain ⟨hf, ⟨-, hdb'⟩ | ⟨hmade', -⟩⟩ := hcreate (regular_fill db _ hin₄)
      · exact fill_spec hpromises hf hdb' hin₄
      · rw [hmade] at hmade'
        cases hmade'
    cases hdone : filled.1 with
    | error e =>
      rw [hdone] at hin
      obtain ⟨-, reports, _, _, _, _, hok, -⟩ := hfill hin
      rw [hdone] at hok
      cases hok
    | ok reports =>
      rw [hdone] at hin
      simp only at hin
      have hin₅ : S.Bounded ended.2.server := S.regular_session _ hin
      have hin₄ : S.Bounded filled.2.server := S.regular_session _ hin₅
      obtain ⟨hf₄, reports', database, hashes, forged, G, hok, hdb₄, hfills⟩ := hfill hin₄
      rw [hdone] at hok
      cases hok
      obtain ⟨hf₅, _, hdb₅⟩ := S.session_spec safe_adminClock hf₄ hdb₄ hin₅
      have hnote : ∀ message, Session.Safe S.admin (fun _ _ => True) 0
          (Config.note .info message) (fun _ t' _ => t' = base.insert db database)
          (base.insert db database) { owner := () } := by
        intro message
        exact safe_adminNote _ _ rfl
      obtain ⟨hf₆, _, hdb₆⟩ := S.session_spec (hnote _) hf₅ hdb₅ hin
      refine ⟨hf₆, Or.inr ⟨_, reports, database, rfl, ?_, rfl, rfl, ?_⟩⟩
      · rw [← Table.insert_of_notMem hdb]
        exact hdb₆
      · exact ⟨reports, hashes, forged, G, rfl, hfills⟩

/-- Populating databases goes on, whether the first one has been created or not, unless the run
ends with it. -/
lemma run_populateAll_cons (outages : Nat → Option Nat) (done : Summary) (db : String)
    (dbs : List String) (w : World Server) :
    let host := (unsteady outages).host
    let populated := (Run.populate host c () db).run w
    (Run.populateAll host c () done (db :: dbs)).run w = match populated.1 with
      | .error e => (.error e, populated.2)
      | .ok none => (Run.populateAll host c () done dbs).run populated.2
      | .ok (some (summary, reports)) =>
        (Run.populateAll host c () ⟨done.databases ++ [summary],
          reports.foldl (fun s r => s ++ r.samples) done.samples⟩ dbs).run populated.2 := by
  intro host populated
  rw [Run.populateAll, run_bind]
  match populated.1 with
  | .error e => rfl
  | .ok none => rfl
  | .ok (some (summary, reports)) => rfl

/-- What a run comes to: a summary for each database that has been created, and no other database
is touched. Without outages all databases are created. -/
theorem populateAll_spec (hpromises : c.Promises S territory post) {done : Summary}
    (dbs : List String) (hw : S.Follows w.server) {base : Table Database}
    (hbase : w.server.databases = base) (hnodup : dbs.Nodup) (hnew : ∀ db ∈ dbs, db ∉ base.keys)
    (hin : S.Bounded
      ((Run.populateAll (unsteady S.outages).host c () done dbs).run w).2.server) :
    ∃ summary summaries entries,
      ((Run.populateAll (unsteady S.outages).host c () done dbs).run w).1 = .ok summary ∧
      summary.databases = done.databases ++ summaries ∧
      ((Run.populateAll (unsteady S.outages).host c () done dbs).run w).2.server.databases =
        base ++ entries ∧
      List.Forall₂ (c.Summarizes S territory post) summaries entries ∧
      (S.Steady → Table.keys entries = dbs) := by
  induction dbs generalizing w done base with
  | nil =>
    exact ⟨done, [], [], rfl, by simp, by rw [List.append_nil]; exact hbase, .nil, fun _ => rfl⟩
  | cons db dbs ih =>
    rw [List.nodup_cons] at hnodup
    have hstep := populate_spec hpromises hw hbase (hnew db List.mem_cons_self)
    rw [run_populateAll_cons] at hin ⊢
    set populated := (Run.populate (unsteady S.outages).host c () db).run w
    match hdone : populated.1 with
    | .error e =>
      rw [hdone] at hin
      obtain ⟨-, ⟨hok, -⟩ | ⟨_, _, _, hok, -⟩⟩ := hstep hin
      · rw [hdone] at hok
        cases hok
      · rw [hdone] at hok
        cases hok
    | .ok none =>
      rw [hdone] at hin
      obtain ⟨hf, ⟨-, hsteady, hdb⟩ | ⟨_, _, _, hok, -⟩⟩ := hstep (regular_populateAll _ _ _ hin)
      · obtain ⟨summary, summaries, entries, hok, hsummaries, hentries, hforall, -⟩ :=
          ih hf hdb hnodup.2 (fun name hname => hnew name (List.mem_cons_of_mem _ hname)) hin
        exact ⟨summary, summaries, entries, hok, hsummaries, hentries, hforall,
          fun h => absurd h hsteady⟩
      · rw [hdone] at hok
        cases hok
    | .ok (some (summary, reports)) =>
      rw [hdone] at hin
      obtain ⟨hf, ⟨hok, -⟩ | ⟨_, _, database, hok, hdb, hsummarizes⟩⟩ :=
        hstep (regular_populateAll _ _ _ hin)
      · rw [hdone] at hok
        cases hok
      · rw [hdone] at hok
        cases hok
        have hnew' : ∀ name ∈ dbs, name ∉ Table.keys (base ++ [(db, database)]) := by
          intro name hname hmem
          rw [Table.keys_append, List.mem_append] at hmem
          rcases hmem with hmem | hmem
          · exact hnew name (List.mem_cons_of_mem _ hname) hmem
          · have heq : name = db := by simpa using hmem
            exact hnodup.1 (heq ▸ hname)
        obtain ⟨last, summaries, entries, hok, hsummaries, hentries, hforall, hkeys⟩ :=
          ih hf hdb hnodup.2 hnew' hin
        refine ⟨last, summary :: summaries, (db, database) :: entries, hok, ?_, ?_,
          .cons hsummarizes hforall, fun hsteady => ?_⟩
        · rw [hsummaries, List.append_assoc]
          rfl
        · rw [hentries, List.append_assoc]
          rfl
        · rw [Table.keys_cons, hkeys hsteady]

/-- The names of the databases are different. -/
lemma nodup_databaseNames (c : Config) : c.databaseNames.Nodup := by
  unfold Config.databaseNames
  split
  · exact List.nodup_singleton _
  · have hnumbers := Config.nodup_words c.firstDatabase c.databases.toNat_lt.le
    have hnodup := hnumbers.map (f := fun number => c.dbPrefix ++ toString number) ?_
    · rwa [List.map_map] at hnodup
    intro m n h
    have htext : (c.dbPrefix ++ toString m).toList = (c.dbPrefix ++ toString n).toList :=
      congrArg String.toList h
    rw [String.toList_append, String.toList_append, List.append_cancel_left_eq] at htext
    have hnat : m.toNat = n.toNat := Text.toString_injective (String.toList_injective htext)
    exact UInt64.toNat_inj.1 hnat

/-- A whole run on a server without databases. -/
theorem execute_spec (hpromises : c.Promises S territory post) (hw : w.server = S.start)
    (hempty : S.start.databases = [])
    (hin : S.Bounded ((Run.execute (unsteady S.outages).host c).run w).2.server) :
    ∃ summary, ((Run.execute (unsteady S.outages).host c).run w).1 = .ok summary ∧
      List.Forall₂ (c.Summarizes S territory post) summary.databases
        ((Run.execute (unsteady S.outages).host c).run w).2.server.databases ∧
      (S.Steady → ((Run.execute (unsteady S.outages).host c).run w).2.server.databases.keys =
        c.databaseNames) := by
  have hrun : (Run.execute (unsteady S.outages).host c).run w =
      (Run.populateAll (unsteady S.outages).host c () ⟨[], {}⟩ c.databaseNames).run w := rfl
  rw [hrun] at hin ⊢
  have hf : S.Follows w.server := by
    rw [hw]
    exact S.follows_start
  have hbase : w.server.databases = [] := by rw [hw, hempty]
  obtain ⟨summary, summaries, entries, hok, hsummaries, hentries, hforall, hkeys⟩ :=
    populateAll_spec hpromises c.databaseNames hf hbase (nodup_databaseNames c) (by simp) hin
  rw [List.nil_append] at hsummaries hentries
  rw [← hsummaries, ← hentries] at hforall
  rw [← hentries] at hkeys
  exact ⟨summary, hok, hforall, hkeys⟩

end Runs

end CouchLoad
