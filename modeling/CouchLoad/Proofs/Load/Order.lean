import CouchLoad.Proofs.Load.Composition
import CouchLoad.Proofs.Load.Partition
import CouchLoad.Proofs.Program.Recording
import CouchLoad.Proofs.Server.Outages

/-!
# The order of requests in a run

A run visits its databases one after the other. What it sends during a visit falls into four stages:
the database is deleted if that is wanted, it is created, the workers fill it, and it gets its
security object. The last two stages are left out if the creation fails.
-/

namespace CouchLoad

/-- What is sent while a run visits a database, in four stages. -/
structure Visit where
  database : String
  deletions : List Sending
  creations : List Sending
  work : List Sending
  securing : List Sending

namespace Visit

/-- All that is sent, in its order. -/
def sent (v : Visit) : List Sending :=
  v.deletions ++ v.creations ++ v.work ++ v.securing

/-- An answer to a creation says that the database is there: by success, or because it is there
already. -/
def grants : Except TransportError Response → Bool
  | .ok response => response.isSuccess || response.body.field "error" = .string "file_exists"
  | .error _ => false

/-- The last answer to the creation says that the database is there. -/
def created (v : Visit) : Bool :=
  v.creations.getLast?.any fun s => grants s.answer

/-- What is sent in each stage of a visit, over which connections, and when a stage is left out. -/
structure Orderly (c : Config) (v : Visit) : Prop where
  deletion : ∀ s ∈ v.deletions, s.connection = 0 ∧ s.request = .plain .delete [v.database]
  deletes : v.deletions ≠ [] ↔ c.recreate = true
  creation : ∀ s ∈ v.creations, s.connection = 0 ∧ s.request = .plain .put [v.database]
  creates : v.creations ≠ []
  worker : ∀ s ∈ v.work, s.connection ≠ 0 ∧ s.request.Concerns v.database
  security : ∀ s ∈ v.securing, s.connection = 0 ∧ ∃ value, c.security = some value ∧
    s.request = (Request.plain .put [v.database, "_security"]).withJson value
  secures : v.created = true → (v.securing ≠ [] ↔ c.security.isSome = true)
  skips : v.created = false → v.work = [] ∧ v.securing = []

end Visit

section Order

open Session Recording

variable {ω : Type} {b : Backend ω} {c : Config} {db : String}

/-- Notes send nothing. -/
lemma Config.records_note {post : List Sending → Unit → Prop} (h : post [] ()) (level : Level)
    (message : String) : (Config.note level message).Records b post :=
  Session.records_note h level .populator message

namespace Config

/-- The database is deleted if that is wanted. -/
lemma records_clear (c : Config) (db : String) : (c.clear db).Records b fun sent _ =>
    (∀ s ∈ sent, s.connection = 0 ∧ s.request = .plain .delete [db]) ∧
      (sent ≠ [] ↔ c.recreate = true) := by
  unfold clear
  split
  · rename_i hrecreate
    refine Records.bind ((records_perform _).mono fun sent result hperformed => ?_)
    have hpost : (∀ s ∈ sent ++ [], s.connection = 0 ∧ s.request = .plain .delete [db]) ∧
        (sent ++ [] ≠ [] ↔ c.recreate = true) := by
      rw [List.append_nil]
      exact ⟨hperformed.request, iff_of_true hperformed.ne_nil hrecreate⟩
    cases result with
    | ok _ => exact records_note hpost _ _
    | error e => exact records_note hpost _ _
  · rename_i hrecreate
    exact records_pure ⟨by simp, by simpa using hrecreate⟩

/-- Just these answers count as success. -/
lemma grants_iff (db : String) (answer : Except TransportError Response) :
    Visit.grants answer = true ↔ ∃ how response, answer = .ok response ∧
      (Operation.createDatabase db).read response = .ok how := by
  cases answer with
  | error e => simp [Visit.grants]
  | ok response =>
    simp only [Visit.grants, Operation.createDatabase]
    by_cases hsuccess : response.isSuccess = true
    · simp [hsuccess]
    · by_cases hexists : response.body.field "error" = .string "file_exists"
      · simp [hsuccess, hexists]
      · simp [hsuccess, hexists]

/-- The database counts as created just if the last answer says that it is there. -/
lemma records_create (db : String) : (Config.create db).Records b fun sent created =>
    (∀ s ∈ sent, s.connection = 0 ∧ s.request = .plain .put [db]) ∧ sent ≠ [] ∧
      created = sent.getLast?.any fun s : Sending => Visit.grants s.answer := by
  refine Records.bind ((records_perform _).mono fun sent result hperformed => ?_)
  obtain ⟨last, hlast, hanswer⟩ := hperformed.answered
  have hpost : ∀ created, (created = true ↔ ∃ value, result = .ok value) →
      (∀ s ∈ sent ++ [], s.connection = 0 ∧ s.request = .plain .put [db]) ∧ sent ++ [] ≠ [] ∧
        created = (sent ++ []).getLast?.any fun s : Sending => Visit.grants s.answer := by
    intro created hcreated
    rw [List.append_nil]
    refine ⟨hperformed.request, hperformed.ne_nil, ?_⟩
    rw [Option.mem_def.1 hlast, Option.any_some, Bool.eq_iff_iff, hcreated]
    simp only [hanswer]
    exact (grants_iff db last.answer).symm
  cases result with
  | ok how =>
    cases how with
    | created =>
      refine Records.bind (records_note (records_pure ?_) _ _)
      exact hpost true (by simp)
    | existing =>
      refine Records.bind (records_note (records_pure ?_) _ _)
      exact hpost true (by simp)
  | error e =>
    refine Records.bind (records_note (records_pure ?_) _ _)
    exact hpost false (by simp)

lemma records_announce (c : Config) (db : String) :
    (c.announce db).Records b fun sent _ => sent = [] :=
  Records.bind (records_note (records_note rfl _ _) _ _)

lemma records_recount (reports : List Report) :
    (recount reports).Records b fun sent _ => sent = [] := by
  induction reports with
  | nil => exact records_pure rfl
  | cons r rs ih => exact Records.bind (records_note ih _ _)

/-- The security object is set if there is one. -/
lemma records_secure (c : Config) (db : String) : (c.secure db).Records b fun sent _ =>
    (∀ s ∈ sent, s.connection = 0 ∧ ∃ value, c.security = some value ∧
      s.request = (Request.plain .put [db, "_security"]).withJson value) ∧
      (sent ≠ [] ↔ c.security.isSome = true) := by
  unfold secure
  cases c.security with
  | none => exact records_pure ⟨by simp, by simp⟩
  | some value =>
    refine Records.bind ((records_perform _).mono fun sent result hperformed => ?_)
    have hpost : (∀ s ∈ sent ++ [], s.connection = 0 ∧ ∃ value', some value = some value' ∧
        s.request = (Request.plain .put [db, "_security"]).withJson value') ∧
        (sent ++ [] ≠ [] ↔ (some value).isSome = true) := by
      rw [List.append_nil]
      refine ⟨fun s hs => ?_, iff_of_true hperformed.ne_nil rfl⟩
      obtain ⟨hconnection, hrequest⟩ := hperformed.request s hs
      exact ⟨hconnection, value, rfl, hrequest⟩
    cases result with
    | ok _ => exact records_note hpost _ _
    | error e => exact records_note hpost _ _

end Config

namespace Run

lemma adds_session {α : Type} {s : Session Unit α} {post : List Sending → α → Prop}
    (h : s.Records b post) : (b.recorder.session 0 s).Adds post := by
  refine Adds.bind ((h { owner := () }).mono fun sent out hout => adds_pure ?_)
  rwa [List.append_nil]

lemma adds_clock : (Run.clock b.recorder 0).Adds fun sent _ => sent = [] :=
  adds_session (records_ask (by simp) fun _ => rfl)

/-- Workers that are hired get connections of their own, and send only what is about their
database. -/
lemma adds_hire (hconnect : ∀ w, (b.connect.run w).1 = .ok ()) (workers : List Worker)
    (hworkers : ∀ w ∈ workers, w.db = db) :
    (Run.hire b.recorder workers).Adds fun sent hired =>
      sent = [] ∧ ∃ pool, hired = .ok pool ∧ Working (Request.Concerns db) pool := by
  induction workers with
  | nil => exact adds_pure ⟨rfl, [], rfl, by simp [Working]⟩
  | cons w ws ih =>
    obtain ⟨rfl, hws⟩ := List.forall_mem_cons.1 hworkers
    refine Adds.bind (adds_connect hconnect fun connection hconnection => ?_)
    refine Adds.bind (adds_lift fun _ => Adds.bind ((ih hws).mono ?_))
    rintro _ _ ⟨rfl, pool, rfl, hpool⟩
    refine adds_pure ⟨rfl, _, rfl, List.forall_mem_cons.2 ⟨⟨hconnection, ?_⟩, hpool⟩⟩
    have hwork (link) : w.work.SendsOnly (Request.Concerns w.db) (fun _ _ _ => True) () link :=
      (sendsOnly_logic _).holds_work_of_send (fun _ _ => trivial) fun _ _ link hr =>
        sendsOnly_send hr link
    exact Program.SendsOnly.bind (hwork _) fun _ _ => trivial

/-- Filling a database is the work of its workers, and then its security object is set. -/
lemma adds_fill (hconnect : ∀ w, (b.connect.run w).1 = .ok ()) (c : Config) (db : String) :
    (Run.fill b.recorder c 0 db).Adds fun sent filled => ∃ work securing reports,
      sent = work ++ securing ∧ filled = .ok reports ∧ Apart (Request.Concerns db) work ∧
      (∀ s ∈ securing, s.connection = 0 ∧ ∃ value, c.security = some value ∧
        s.request = (Request.plain .put [db, "_security"]).withJson value) ∧
      (securing ≠ [] ↔ c.security.isSome = true) := by
  refine Adds.bind ((adds_session (c.records_announce db)).mono ?_)
  rintro _ _ rfl
  have hteam : ∀ w ∈ c.team db, w.db = db := by
    intro w hw
    obtain ⟨place, hplace⟩ := List.mem_iff_getElem?.1 hw
    exact (Config.team_getElem? hplace).1
  refine Adds.bind ((adds_hire hconnect (c.team db) hteam).mono ?_)
  rintro _ _ ⟨rfl, pool, rfl, hpool⟩
  refine Adds.bind ((adds_together hpool).mono fun work reports hwork => ?_)
  refine Adds.bind ((adds_session (Config.records_recount reports)).mono ?_)
  rintro _ _ rfl
  refine Adds.bind ((adds_session (c.records_secure db)).mono fun securing _ hsecuring => ?_)
  exact adds_pure ⟨work, securing, reports, by simp, rfl, hwork, hsecuring⟩

/-- What a visit of a database comes to. -/
def Visited (c : Config) (db : String) (sent : List Sending)
    (result : Except TransportError (Option (DatabaseSummary × List Report))) : Prop :=
  ∃ v : Visit, v.database = db ∧ sent = v.sent ∧ v.Orderly c ∧
    (v.created = false ∧ result = .ok none ∨
      v.created = true ∧ ∃ summary reports, result = .ok (some (summary, reports)) ∧
        summary.name = db)

/-- A database is visited in order, and it has a summary just if it was created. -/
theorem adds_populate (hconnect : ∀ w, (b.connect.run w).1 = .ok ()) (c : Config) (db : String) :
    (Run.populate b.recorder c 0 db).Adds (Visited c db) := by
  refine Adds.bind (adds_clock.mono ?_)
  rintro _ started rfl
  refine Adds.bind ((adds_session (c.records_clear db)).mono ?_)
  rintro deletions _ ⟨hdeletion, hdeletes⟩
  refine Adds.bind ((adds_session (Config.records_create db)).mono ?_)
  rintro creations created ⟨hcreation, hcreates, hcreated⟩
  cases created with
  | false =>
    let v : Visit := ⟨db, deletions, creations, [], []⟩
    have hfailed : v.created = false := hcreated.symm
    refine adds_pure ⟨v, rfl, by simp [v, Visit.sent], ?_, Or.inl ⟨hfailed, rfl⟩⟩
    exact
      { deletion := hdeletion, deletes := hdeletes, creation := hcreation, creates := hcreates
        worker := by simp [v]
        security := by simp [v]
        secures := fun h => by rw [hfailed] at h; cases h
        skips := fun _ => ⟨rfl, rfl⟩ }
  | true =>
    refine Adds.bind ((adds_fill hconnect c db).mono ?_)
    rintro _ _ ⟨work, securing, reports, rfl, rfl, hwork, hsecurity, hsecures⟩
    refine Adds.bind (adds_clock.mono ?_)
    rintro _ ended rfl
    refine Adds.bind (adds_session (Config.records_note (adds_pure ?_) _ _))
    let v : Visit := ⟨db, deletions, creations, work, securing⟩
    have hmade : v.created = true := hcreated.symm
    refine ⟨v, rfl, by simp [v, Visit.sent], ?_, Or.inr ⟨hmade, _, reports, rfl, rfl⟩⟩
    exact
      { deletion := hdeletion, deletes := hdeletes, creation := hcreation, creates := hcreates
        worker := hwork
        security := hsecurity
        secures := fun _ => hsecures
        skips := fun h => by rw [hmade] at h; cases h }

/-- Databases are visited one after the other, whatever becomes of each. -/
theorem adds_populateAll (hconnect : ∀ w, (b.connect.run w).1 = .ok ()) (c : Config)
    (done : Summary) (dbs : List String) :
    (Run.populateAll b.recorder c 0 done dbs).Adds fun sent result =>
      ∃ (visits : List Visit) (summary : Summary), result = .ok summary ∧
        visits.map Visit.database = dbs ∧ sent = visits.flatMap Visit.sent ∧
        (∀ v ∈ visits, v.Orderly c) ∧
        summary.databases.map DatabaseSummary.name =
          done.databases.map DatabaseSummary.name ++
            (visits.filter Visit.created).map Visit.database := by
  induction dbs generalizing done with
  | nil => exact adds_pure ⟨[], done, rfl, rfl, rfl, by simp, by simp⟩
  | cons db dbs ih =>
    refine Adds.bind ((adds_populate hconnect c db).mono ?_)
    rintro _ _ ⟨v, rfl, rfl, horderly, ⟨hfailed, rfl⟩ | ⟨hmade, summary, reports, rfl, hname⟩⟩
    · refine (ih done).mono ?_
      rintro sent result ⟨visits, summary, rfl, rfl, rfl, hvisits, hnames⟩
      refine ⟨v :: visits, summary, rfl, rfl, rfl, List.forall_mem_cons.2 ⟨horderly, hvisits⟩, ?_⟩
      rw [hnames, List.filter_cons_of_neg (by simp [hfailed])]
    · refine (ih _).mono ?_
      rintro sent result ⟨visits, summary', rfl, rfl, rfl, hvisits, hnames⟩
      refine ⟨v :: visits, summary', rfl, rfl, rfl, List.forall_mem_cons.2 ⟨horderly, hvisits⟩, ?_⟩
      rw [hnames, List.filter_cons_of_pos hmade]
      simp [hname]

/-! ### The record left out -/

/-- Writing down what is sent makes no difference to a run. -/
theorem erases_execute (c : Config) :
    Erases Eq (Run.execute b.recorder c) (Run.execute b.host c) :=
  matches_recorder.execute c

/-- The connection of the run itself is the first one. -/
lemma run_execute {w : World ω} (hconnect : (b.connect.run w).1 = .ok ()) (c : Config) :
    ((Run.execute b.recorder c).run {}).run w =
      ((Run.populateAll b.recorder c 0 ⟨[], {}⟩ c.databaseNames).run { opened := 1 }).run
        (b.connect.run w).2 := by
  have hopen : (b.recorder.connect.run {}).run w =
      ((.ok 0, { opened := 1 }), (b.connect.run w).2) := recording_connect hconnect {}
  unfold Run.execute
  rw [recording_bind, hopen]

end Run

/-- A run sends everything in order. The databases are visited one after the other, in the order of
their names, and each visit is orderly: whatever the answers are and however the workers take
turns, the run deletes and creates the database before its workers send anything, and they have
sent everything before the security object is set. Just the databases that could be created are in
the summary. -/
theorem execute_in_order (hconnect : ∀ w, (b.connect.run w).1 = .ok ()) (c : Config)
    (w : World ω) :
    ∃ (visits : List Visit) (summary : Summary),
      ((Run.execute b.host c).run w).1 = .ok summary ∧
      b.sent c w = visits.flatMap Visit.sent ∧
      visits.map Visit.database = c.databaseNames ∧
      (∀ v ∈ visits, v.Orderly c) ∧
      summary.databases.map DatabaseSummary.name =
        (visits.filter Visit.created).map Visit.database := by
  obtain ⟨hvalue, -⟩ := Run.erases_execute c {} w
  have hsent : b.sent c w = (((Run.execute b.recorder c).run {}).run w).1.2.sent := rfl
  rw [← hvalue, hsent, Run.run_execute (hconnect w)]
  obtain ⟨sent, hrecord, -, visits, summary, hresult, hdatabases, hvisits, horderly, hnames⟩ :=
    Run.adds_populateAll hconnect c ⟨[], {}⟩ c.databaseNames { opened := 1 } (b.connect.run w).2
      Nat.zero_lt_one
  refine ⟨visits, summary, hresult, ?_, hdatabases, horderly, hnames⟩
  rw [hrecord, hvisits]
  rfl

/-- In a run of two databases the creation of the first one is dropped twice. -/
theorem execute_in_order_dropped :
    let b := Server.unsteady fun number => if number = 0 then some 2 else none
    let c := { Config.small with databases := 2, security := some (.object []) }
    let w := World.fresh {} [[0, 1, 1, 0]]
    (∀ w, (b.connect.run w).1 = .ok ()) ∧ ∃ visits : List Visit,
      b.sent c w = visits.flatMap Visit.sent ∧
      visits.map Visit.database = ["testdb1", "testdb2"] ∧
      (∀ v ∈ visits, v.Orderly c) ∧
      (visits.filter Visit.created).map Visit.database = ["testdb2"] := by
  intro b c w
  have hconnect : ∀ w, (b.connect.run w).1 = .ok () := fun _ => rfl
  obtain ⟨visits, summary, hok, hsent, hdatabases, horderly, hnames⟩ :=
    execute_in_order hconnect c w
  have hsummary : ((Run.execute b.host c).run w).1.toOption.map
      (fun s => s.databases.map DatabaseSummary.name) = some ["testdb2"] := by decide +kernel
  rw [hok] at hsummary
  refine ⟨hconnect, visits, hsent, hdatabases.trans (by decide +kernel), horderly, ?_⟩
  rw [← hnames]
  exact Option.some.inj hsummary

end Order

end CouchLoad
