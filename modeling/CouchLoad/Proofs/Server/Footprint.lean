import CouchLoad.Proofs.Server.Acceptance
import CouchLoad.Proofs.Server.Frame
import CouchLoad.Server.Footprint

/-!
# What a request touches

A request that is not accepted leaves the databases alone. One that is accepted touches the database
of its path, and in there the documents that it names. The same holds for each entry of a bulk
write.
-/

namespace CouchLoad.Server

/-- The way from one state to another stays within some places of one database, which is neither
created nor deleted. -/
structure Within (s t : Server) (db : String) (ids : List String) : Prop where
  elsewhere : ∀ db', db' ≠ db → t.databases.get? db' = s.databases.get? db'
  contains : t.databases.contains db = s.databases.contains db
  inside : ∀ id, id ∉ ids → t.document? db id = s.document? db id

namespace Within

variable {s t u : Server} {db : String} {ids ids' : List String}

lemma of_databases (h : t.databases = s.databases) : Within s t db ids :=
  ⟨fun db' _ => by rw [h], by rw [h], fun id _ => by rw [document?, h, document?]⟩

lemma refl (s : Server) : Within s s db ids := of_databases rfl

lemma mono (h : Within s t db ids) (hsub : ids ⊆ ids') : Within s t db ids' :=
  ⟨h.elsewhere, h.contains, fun id hid => h.inside id fun hmem => hid (hsub hmem)⟩

lemma trans (h : Within s t db ids) (h' : Within t u db ids) : Within s u db ids where
  elsewhere db' hdb := (h'.elsewhere db' hdb).trans (h.elsewhere db' hdb)
  contains := h'.contains.trans h.contains
  inside id hid := (h'.inside id hid).trans (h.inside id hid)

/-- Ways that stay within their own places stay within all of them together. -/
lemma append (h : Within s t db ids) (h' : Within t u db ids') : Within s u db (ids ++ ids') :=
  (h.mono (List.subset_append_left ..)).trans (h'.mono (List.subset_append_right ..))

end Within

lemma within_putDatabase {s : Server} {db : String} (database : Database)
    (hdb : s.databases.contains db = true)
    (hdocuments : ∀ id, database.documents.get? id = s.document? db id) :
    Within s (s.putDatabase db database) db [] where
  elsewhere db' hne := Table.get?_insert_of_ne _ hne _
  contains := by
    rw [hdb]
    exact contains_of_get? (Table.get?_insert_self ..)
  inside id _ := by rw [document?_putDatabase hdocuments]

lemma within_putDocument {s : Server} {db : String} {database : Database}
    (hdb : s.databases.get? db = some database) (id : String) (d : StoredDocument) :
    Within s (s.putDocument db database id d) db [id] where
  elsewhere db' hne := Table.get?_insert_of_ne _ hne _
  contains := by
    rw [contains_of_get? hdb]
    exact contains_of_get? (Table.get?_insert_self ..)
  inside id' hid := (puts_putDocument hdb id d).elsewhere (.inr (List.ne_of_not_mem_cons hid))

lemma Advances.within {s t : Server} {db id : String} {d : StoredDocument}
    (h : s.Advances db id d t) : Within s t db [id] := by
  obtain ⟨database, hdb, rfl⟩ := h.puts
  have hget : s.freshHash.2.databases.get? db = some database := hdb
  have hfresh : Within s s.freshHash.2 db [id] := .of_databases rfl
  exact hfresh.trans (within_putDocument hget id d)

lemma Tries.within {s : Server} {db id : String} {proper : Prop}
    {out : Except Refusal Revision × Server} (h : s.Tries db id proper out) :
    Within s out.2 db [id] := by
  cases h with
  | accept _ advances => exact advances.within
  | refuse _ refusal => exact .of_databases rfl

/-! ### Entries of bulk writes -/

/-- An entry is stored under its id or refused, and the answer tells which of the two it is. -/
structure Faithful (db : String) (run : EntryRun) : Prop where
  within : Within run.before run.after db [run.id]
  refused : run.Refused → run.after.databases = run.before.databases
  named : ∀ result ∈ run.results, result.field "id" = .string run.id

lemma databases_entryId (s : Server) (entry : Json) :
    (s.entryId entry).2.databases = s.databases := by
  unfold entryId
  split <;> rfl

lemma field_id_written (id : String) (rev : Revision) :
    (written id rev).field "id" = .string id := by
  simp [written, Json.field, Table.get?_cons]

lemma field_error_written (id : String) (rev : Revision) :
    (written id rev).field "error" = .null := by
  simp [written, Json.field, Table.get?_cons, Table.get?_nil]

lemma field_id_unwritten (id error reason : String) :
    (unwritten id error reason).field "id" = .string id := by
  simp [unwritten, Json.field, Table.get?_cons]

lemma faithful_writeRun (db : String) (s : Server) (entry : Json) :
    Faithful db (writeRun db s entry) := by
  have htries := tries_writeDocument (s.entryId entry).2 db (s.entryId entry).1
    (entry.field "_rev").string? entry
  have hid : Within s (s.entryId entry).2 db [(s.entryId entry).1] :=
    .of_databases (databases_entryId s entry)
  unfold writeRun writeEntry
  simp only
  generalize (s.entryId entry).2.writeDocument db (s.entryId entry).1
    (entry.field "_rev").string? entry = out at htries
  cases htries with
  | accept _ advances =>
    refine ⟨hid.trans advances.within, ?_, ?_⟩
    · rintro ⟨result, hresult, herror⟩
      rw [List.mem_singleton.1 hresult, field_error_written] at herror
      exact absurd rfl herror
    · intro result hresult
      rw [List.mem_singleton.1 hresult]
      exact field_id_written ..
  | refuse _ refusal =>
    have hsame : (s.entryId entry).2.freshHash.2.databases = s.databases :=
      databases_entryId s entry
    refine ⟨.of_databases hsame, fun _ => hsame, ?_⟩
    intro result hresult
    rw [List.mem_singleton.1 hresult]
    exact field_id_unwritten ..

lemma faithful_replicaRun (db : String) (s : Server) (entry : Json) :
    Faithful db (replicaRun db s entry) := by
  unfold replicaRun replicateEntry
  simp only
  cases (entry.field "_rev").string?.bind Revision.parse? with
  | none => exact ⟨.refl s, fun _ => rfl, by simp [field_id_unwritten]⟩
  | some rev =>
    cases hdb : s.databases.get? db with
    | none => exact ⟨.refl s, fun _ => rfl, by simp [field_id_unwritten]⟩
    | some database => exact ⟨within_putDocument hdb _ _, by simp [EntryRun.Refused], by simp⟩

lemma id_writeRun (db : String) (s : Server) (entry : Json) :
    (writeRun db s entry).id =
      (entry.field "_id").string?.getD ("generated-" ++ s.freshHash.1) := by
  unfold writeRun entryId
  simp only
  cases (entry.field "_id").string? <;> rfl

/-- Entries that are taken one after the other lead from the first state to the last one. -/
lemma leads_entryRuns (run : Server → Json → EntryRun)
    (store : Server → List Json → List Json × Server) (hrun : ∀ s entry, (run s entry).before = s)
    (hnil : ∀ s, store s [] = ([], s))
    (hcons : ∀ s entry entries, store s (entry :: entries) =
      ((run s entry).results ++ (store (run s entry).after entries).1,
        (store (run s entry).after entries).2)) (s : Server) (entries : List Json) :
    EntryRun.Leads s (entryRuns run s entries) (store s entries).2 ∧
      (store s entries).1 = (entryRuns run s entries).flatMap (·.results) := by
  induction entries generalizing s with
  | nil =>
    rw [hnil]
    exact ⟨.nil s, rfl⟩
  | cons entry entries ih =>
    obtain ⟨hleads, hresults⟩ := ih (run s entry).after
    rw [hcons]
    constructor
    · have := EntryRun.Leads.cons (run s entry) hleads
      rwa [hrun] at this
    · rw [hresults]
      rfl

lemma entries_entryRuns {run : Server → Json → EntryRun}
    (hrun : ∀ s entry, (run s entry).entry = entry) (s : Server) (entries : List Json) :
    (entryRuns run s entries).map (·.entry) = entries := by
  induction entries generalizing s with
  | nil => rfl
  | cons entry entries ih => rw [entryRuns, List.map_cons, ih, hrun]

lemma forall_entryRuns (run : Server → Json → EntryRun) {P : EntryRun → Prop}
    (hrun : ∀ s entry, P (run s entry)) (s : Server) (entries : List Json) :
    ∀ r ∈ entryRuns run s entries, P r := by
  induction entries generalizing s with
  | nil => simp [entryRuns]
  | cons entry entries ih => exact List.forall_mem_cons.2 ⟨hrun s entry, ih _⟩

/-- The answer to a bulk write accounts for its entries one by one. -/
structure Accounts (s t : Server) (db : String) (body : Json) (results : List Json) : Prop where
  entries : (s.bulkRuns db body).map (·.entry) = (body.field "docs").array?.getD []
  leads : EntryRun.Leads s (s.bulkRuns db body) t
  results : results = (s.bulkRuns db body).flatMap (·.results)
  ids : ∀ run ∈ s.bulkRuns db body, run.id = (run.entry.field "_id").string?.getD
    (if (body.field "new_edits").bool?.getD true then "generated-" ++ run.before.freshHash.1
      else "")
  faithful : ∀ run ∈ s.bulkRuns db body, Faithful db run

/-- A bulk write is refused as a whole, or its entries are taken one after the other. -/
lemma writeBulk_cases (s : Server) (db : String) (body : Json) :
    (∃ refusal, s.writeBulk db body = (.error refusal, s)) ∨
      s.databases.contains db = true ∧ ∃ results t, s.writeBulk db body = (.ok results, t) ∧
        s.Accounts t db body results := by
  by_cases hdb : s.databases.contains db = true
  · unfold writeBulk
    rw [if_neg (by simp [hdb])]
    cases hdocs : (body.field "docs").array? with
    | none => exact .inl ⟨_, rfl⟩
    | some entries =>
      refine .inr ⟨hdb, _, _, rfl, ?_⟩
      have hruns : s.bulkRuns db body = if (body.field "new_edits").bool?.getD true = true then
          entryRuns (writeRun db) s entries else entryRuns (replicaRun db) s entries := by
        simp [bulkRuns, hdb, hdocs]
      cases hedits : (body.field "new_edits").bool?.getD true with
      | true =>
        rw [hedits, if_pos rfl] at hruns
        obtain ⟨hleads, hresults⟩ := leads_entryRuns (writeRun db)
          (fun s => s.writeEntries db) (fun _ _ => rfl) (fun _ => rfl) (fun _ _ _ => rfl) s entries
        constructor
        · rw [hruns, hdocs, entries_entryRuns fun _ _ => rfl]
          rfl
        · rwa [hruns]
        · rwa [hruns]
        · rw [hruns, hedits]
          exact forall_entryRuns _ (fun s entry => id_writeRun db s entry) s entries
        · rw [hruns]
          exact forall_entryRuns _ (fun s entry => faithful_writeRun db s entry) s entries
      | false =>
        rw [hedits, if_neg Bool.false_ne_true] at hruns
        obtain ⟨hleads, hresults⟩ := leads_entryRuns (replicaRun db)
          (fun s => s.replicateEntries db) (fun _ _ => rfl) (fun _ => rfl) (fun _ _ _ => rfl) s
          entries
        constructor
        · rw [hruns, hdocs, entries_entryRuns fun _ _ => rfl]
          rfl
        · rwa [hruns]
        · rwa [hruns]
        · rw [hruns, hedits]
          exact forall_entryRuns (replicaRun db) (fun _ _ => by rfl) s entries
        · rw [hruns]
          exact forall_entryRuns _ (fun s entry => faithful_replicaRun db s entry) s entries
  · refine .inl ⟨.noDatabase, ?_⟩
    simp [writeBulk, hdb]

end Server

namespace EntryRun.Leads

open Server

variable {s t : Server} {db : String} {runs : List EntryRun}

/-- Entries touch nothing but what they name. -/
lemma within (h : Leads s runs t) (hruns : ∀ run ∈ runs, Faithful db run) :
    Within s t db (runs.map (·.id)) := by
  induction h with
  | nil s => exact .refl s
  | cons run _ ih =>
    obtain ⟨hrun, hrest⟩ := List.forall_mem_cons.1 hruns
    exact hrun.within.append (ih hrest)

/-- A document stays as it was if all entries that name it are refused. -/
lemma document?_eq (h : Leads s runs t) (hruns : ∀ run ∈ runs, Faithful db run) {id : String}
    (hid : ∀ run ∈ runs, run.id = id → run.Refused) : t.document? db id = s.document? db id := by
  induction h with
  | nil s => rfl
  | cons run _ ih =>
    obtain ⟨hrun, hrest⟩ := List.forall_mem_cons.1 hruns
    obtain ⟨hrefused, hrest'⟩ := List.forall_mem_cons.1 hid
    rw [ih hrest hrest']
    by_cases hname : run.id = id
    · rw [document?, hrun.refused (hrefused hname), document?]
    · exact hrun.within.inside id (by simpa using Ne.symm hname)

end EntryRun.Leads

namespace Server

/-! ### Requests -/

/-- An accepted command touches its own database, and of the documents in there those that it
names. A database is there afterwards, unless it was to be deleted. -/
structure Confined (s : Server) (r : Request) (command : Command) (t : Server) : Prop where
  elsewhere : ∀ db, db ≠ command.database → t.databases.get? db = s.databases.get? db
  inside : t.databases.contains command.database = true → ∀ id, id ∉ s.addressed r command →
    t.document? command.database id = s.document? command.database id
  deleted : t.databases.contains command.database = false ↔
    command = .deleteDatabase command.database

lemma Within.confined {s t : Server} {r : Request} {command : Command}
    (h : Within s t command.database (s.addressed r command))
    (hcontains : s.databases.contains command.database = true)
    (hne : ∀ db, command ≠ .deleteDatabase db) : s.Confined r command t where
  elsewhere := h.elsewhere
  inside _ := h.inside
  deleted := by
    rw [h.contains, hcontains]
    exact ⟨fun heq => (Bool.noConfusion heq), fun heq => absurd heq (hne _)⟩

/-- What is accepted stays confined, and what is not changes at most the number of hashes. -/
structure Behaves (s : Server) (r : Request) (command : Command)
    (out : Except TransportError Response × Server) : Prop where
  confined : accepted out.1 = true → s.Confined r command out.2
  refused : accepted out.1 = false → ∃ n, out.2 = { s with hashes := n }

variable {s : Server} {r : Request} {command : Command}

lemma behaves_refusal (refusal : Refusal) (n : Nat) :
    s.Behaves r command (.ok refusal.response, { s with hashes := n }) := by
  refine ⟨fun haccepted => ?_, fun _ => ⟨n, rfl⟩⟩
  cases refusal <;> cases haccepted

lemma behaves_of_confined {response : Response} {t : Server} (hsuccess : response.isSuccess = true)
    (h : s.Confined r command t) : s.Behaves r command (.ok response, t) := by
  refine ⟨fun _ => h, fun hrefused => ?_⟩
  rw [accepted, hsuccess] at hrefused
  cases hrefused

/-- A write of one document is accepted if it is as it should be. -/
lemma Tries.behaves {id : String} {proper : Prop} {out : Except Refusal Revision × Server}
    (h : s.Tries command.database id proper out) (hid : s.addressed r command = [id])
    (hne : ∀ db, command ≠ .deleteDatabase db) :
    s.Behaves r command (.ok (answerWrite id out).1, (answerWrite id out).2) := by
  have hwithin := h.within
  cases h with
  | accept _ advances =>
    obtain ⟨database, hdb, -⟩ := advances.puts
    rw [← hid] at hwithin
    exact behaves_of_confined rfl (hwithin.confined (contains_of_get? hdb) hne)
  | refuse _ refusal => exact behaves_refusal refusal _

lemma confined_createDatabase {db : String} (hdb : s.databases.get? db = none) :
    s.Confined r (.createDatabase db) (s.putDatabase db {}) where
  elsewhere db' hne := Table.get?_insert_of_ne _ hne _
  inside _ id _ := by
    have hempty : ∀ id, ({} : Database).documents.get? id = s.document? db id := fun id =>
      (document?_eq_none hdb id).symm
    rw [document?_putDatabase hempty]
  deleted := by simp [Command.database, putDatabase, Table.contains, Table.get?_insert_self]

lemma confined_deleteDatabase (db : String) :
    s.Confined r (.deleteDatabase db) { s with databases := s.databases.erase db } := by
  have hgone : (s.databases.erase db).contains db = false := by
    simp [Table.contains, Table.get?_erase]
  constructor
  · intro db' hne
    exact (Table.get?_erase ..).trans (if_neg (Ne.symm hne))
  · intro hthere
    exact absurd (hgone.symm.trans hthere) Bool.false_ne_true
  · exact ⟨fun _ => rfl, fun _ => hgone⟩

lemma behaves_execute (s : Server) (files : Files) (r : Request) (command : Command) :
    s.Behaves r command (s.execute files r command) := by
  cases command with
  | createDatabase db =>
    simp only [execute]
    split
    · exact behaves_refusal _ s.hashes
    · rename_i hdb
      exact behaves_of_confined rfl (confined_createDatabase (by simpa [Table.contains] using hdb))
  | deleteDatabase db =>
    simp only [execute]
    split
    · exact behaves_of_confined rfl (confined_deleteDatabase db)
    · exact behaves_refusal _ s.hashes
  | putSecurity db =>
    simp only [execute]
    split
    · rename_i database hdb
      have hwithin := within_putDatabase { database with security := some (jsonBody r) }
        (contains_of_get? hdb) fun id => (document?_of_get? hdb id).symm
      exact behaves_of_confined rfl
        (Within.confined hwithin (contains_of_get? hdb) fun _ => Command.noConfusion)
    · exact behaves_refusal _ s.hashes
  | writeBulk db =>
    simp only [execute]
    rcases writeBulk_cases s db (jsonBody r) with ⟨refusal, heq⟩ | ⟨hdb, results, t, heq, haccounts⟩
    · rw [heq]
      exact behaves_refusal _ s.hashes
    · rw [heq]
      have hwithin := haccounts.leads.within haccounts.faithful
      exact behaves_of_confined rfl (Within.confined hwithin hdb fun _ => Command.noConfusion)
  | writeDocument db id =>
    have htries := tries_writeDocument s (Command.writeDocument db id).database id
    exact (htries _ (jsonBody r)).behaves rfl fun _ => Command.noConfusion
  | writeAttachment db id name =>
    simp only [execute]
    cases bodyBytes files r.body with
    | error e => exact ⟨(by cases ·), fun _ => ⟨s.hashes, rfl⟩⟩
    | ok bytes =>
      have htries := tries_writeAttachment s (Command.writeAttachment db id name).database id name
      exact (htries _ _).behaves rfl fun _ => Command.noConfusion

/-- A request that is answered by an error or by a refusal changes nothing but the log, the number
of pending failures and the number of hashes. Otherwise it is a command, which touches the database
that it names, and in there the documents that it names. The answer to a bulk write tells of its
entries one by one: an entry that is reported as an error has left all databases as they were, the
others have only touched the documents under their ids, and a document stays as it was if all
entries for it are refused. -/
theorem handle_touches (s : Server) (files : Files) (r : Request) :
    let answer := (s.handle files r).1
    let t := (s.handle files r).2
    let logged : Server := { s with requests := s.requests.push r }
    (accepted answer = false → t = { s with
      requests := s.requests.push r, pendingFailures := t.pendingFailures, hashes := t.hashes }) ∧
    (accepted answer = true → ∃ command, Command.of? r = some command ∧
      logged.Confined r command t ∧
      ∀ db, command = .writeBulk db → ∃ results, answer = .ok ⟨201, .array results⟩ ∧
        logged.Accounts t db (jsonBody r) results ∧
        ∀ id, (∀ run ∈ logged.bulkRuns db (jsonBody r), run.id = id → run.Refused) →
          t.document? db id = s.document? db id) := by
  intro answer t logged
  by_cases hpending : s.pendingFailures = 0
  · have hthrough : s.handle files r = logged.respond files r := handle_of_calm hpending files r
    have hanswer : answer = (logged.respond files r).1 := congrArg Prod.fst hthrough
    have ht : t = (logged.respond files r).2 := congrArg Prod.snd hthrough
    rw [hanswer, ht]
    unfold respond
    cases hcommand : Command.of? r with
    | none => exact ⟨fun _ => rfl, (by cases ·)⟩
    | some command =>
      have hbehaves := behaves_execute logged files r command
      constructor
      · intro hrefused
        obtain ⟨n, hn⟩ := hbehaves.refused hrefused
        simp only
        rw [hn]
      · intro haccepted
        refine ⟨command, rfl, hbehaves.confined haccepted, ?_⟩
        rintro db rfl
        simp only [execute] at haccepted ⊢
        rcases writeBulk_cases logged db (jsonBody r) with
          ⟨refusal, heq⟩ | ⟨hdb, results, t', heq, haccounts⟩
        · rw [heq] at haccepted
          cases refusal <;> cases haccepted
        · rw [heq]
          exact ⟨results, rfl, haccounts, fun id hid =>
            haccounts.leads.document?_eq haccounts.faithful hid⟩
  · have hdropped := handle_of_pending hpending files r
    have hanswer : answer = .error (.disconnected "injected failure") := congrArg Prod.fst hdropped
    have ht : t = { logged with pendingFailures := s.pendingFailures - 1 } :=
      congrArg Prod.snd hdropped
    rw [hanswer, ht]
    exact ⟨fun _ => rfl, (by cases ·)⟩

end Server

end CouchLoad
