import CouchLoad.Proofs.Load.Writing
import CouchLoad.Server.Journal

/-!
# One thing after the other

All that a server can do to a document are four things: write a new revision on top of the current
one, store a replicated revision, forget the document with its database, or nothing. What happens
to a server is a sequence of such steps, and the journal tells which.
-/

namespace CouchLoad.Server

/-- A document is put in its place, and every other place stays as it was. -/
structure Puts (s t : Server) (db id : String) (d : StoredDocument) : Prop where
  here : t.document? db id = some d
  elsewhere : ∀ {db' id' : String}, db' ≠ db ∨ id' ≠ id →
    t.document? db' id' = s.document? db' id'

/-- The document that comes to be where a replicated revision is stored. -/
def replicated (old : Option StoredDocument) (rev : Revision) (body : Table Json) :
    StoredDocument :=
  match old with
  | some d => d.addConflict rev
  | none => StoredDocument.first rev body

/-- One thing that is done, and the states of the server before and after it. -/
inductive Step : Server → List Deed → Server → Prop where
  | rest {s t : Server} (documents : t.document? = s.document?) (hashes : s.hashes ≤ t.hashes) :
      Step s [] t
  | update {s t : Server} {db id : String} {base : Option String} {d : StoredDocument}
      (puts : Puts s t db id d) (base_eq : base = (s.document? db id).map (·.rev.display))
      (succeeds : d.Succeeds (s.document? db id))
      (hash : d.rev.hash = String.ofList (Text.hex 32 (s.hashes + 1)))
      (hashes : t.hashes = s.hashes + 1) :
      Step s [.update base (s.change t db id)] t
  | replica {s t : Server} {db id : String} (rev : Revision) (body : Table Json)
      (puts : Puts s t db id (replicated (s.document? db id) rev body))
      (hashes : t.hashes = s.hashes) :
      Step s [.replica (s.change t db id)] t
  | delete {s t : Server} {db : String} (here : ∀ id, t.document? db id = none)
      (elsewhere : ∀ db' id, db' ≠ db → t.document? db' id = s.document? db' id)
      (hashes : t.hashes = s.hashes) :
      Step s [.delete db] t

/-- Things that are done one after the other. -/
inductive Steps : Server → List Deed → Server → Prop where
  | refl (s : Server) : Steps s [] s
  | step {s t u : Server} {deeds deeds' : List Deed} (h : Step s deeds t) (h' : Steps t deeds' u) :
      Steps s (deeds ++ deeds') u

lemma Step.steps {s t : Server} {deeds : List Deed} (h : Step s deeds t) : Steps s deeds t := by
  have := Steps.step h (.refl t)
  rwa [List.append_nil] at this

lemma Steps.trans {s t u : Server} {deeds deeds' : List Deed} (h : Steps s deeds t)
    (h' : Steps t deeds' u) : Steps s (deeds ++ deeds') u := by
  induction h with
  | refl s => exact h'
  | step hstep _ ih =>
    rw [List.append_assoc]
    exact .step hstep (ih h')

/-! ### Documents and databases -/

lemma document?_of_get? {s : Server} {db : String} {database : Database}
    (h : s.databases.get? db = some database) (id : String) :
    s.document? db id = database.documents.get? id := by simp [document?, h]

lemma document?_eq_none {s : Server} {db : String} (h : s.databases.get? db = none) (id : String) :
    s.document? db id = none := by simp [document?, h]

/-- A database with the documents that were there before changes none of them. -/
lemma document?_putDatabase {s : Server} {db : String} {database : Database}
    (h : ∀ id, database.documents.get? id = s.document? db id) :
    (s.putDatabase db database).document? = s.document? := by
  funext db' id
  by_cases hdb : db' = db
  · subst hdb
    rw [← h id]
    simp [document?, putDatabase, Table.get?_insert_self]
  · simp [document?, putDatabase, Table.get?_insert_of_ne _ hdb]

lemma puts_putDocument {s : Server} {db : String} {database : Database}
    (h : s.databases.get? db = some database) (id : String) (d : StoredDocument) :
    Puts s (s.putDocument db database id d) db id d where
  here := by simp [document?, putDocument, putDatabase, Table.get?_insert_self]
  elsewhere {db' id'} hne := by
    by_cases hdb : db' = db
    · subst hdb
      have hid : id' ≠ id := hne.resolve_left (by simp)
      simp [document?, putDocument, putDatabase, Table.get?_insert_self, h,
        Table.get?_insert_of_ne _ hid]
    · simp [document?, putDocument, putDatabase, Table.get?_insert_of_ne _ hdb]

/-! ### Single steps -/

lemma step_freshHash (s : Server) : Step s [] s.freshHash.2 := .rest rfl (Nat.le_succ _)

/-- A write is refused, or it puts a new revision in the place of the one that it names. -/
structure Writes (s : Server) (db id : String) (base : Option String)
    (out : Except Refusal Revision × Server) : Prop where
  step : Step s (s.updated db id base out) out.2
  issued : issued (s.updated db id base out) = out.1.toOption.toList

lemma writes_of_refusal {s t : Server} {db id : String} {base : Option String} (refusal : Refusal)
    (h : Step s [] t) : Writes s db id base (.error refusal, t) := ⟨h, rfl⟩

lemma writes_of_putDocument {s : Server} {db id : String} {base : Option String}
    {database : Database} {d : StoredDocument} (h : s.databases.get? db = some database)
    (base_eq : base = (database.documents.get? id).map (·.rev.display))
    (succeeds : d.Succeeds (database.documents.get? id)) (hash : d.rev.hash = s.freshHash.1) :
    Writes s db id base (.ok d.rev, s.freshHash.2.putDocument db database id d) := by
  have hputs := puts_putDocument (s := s.freshHash.2) h id d
  rw [← document?_of_get? h] at base_eq succeeds
  refine ⟨.update ⟨hputs.here, hputs.elsewhere⟩ base_eq succeeds hash rfl, ?_⟩
  simp [updated, CouchLoad.issued, Deed.issued?, change, hputs.here, Except.toOption]

lemma writes_writeDocument (s : Server) (db id : String) (rev : Option String) (body : Json) :
    Writes s db id rev (s.writeDocument db id rev body) := by
  unfold writeDocument
  simp only
  split
  · exact writes_of_refusal _ (step_freshHash s)
  · rename_i database hdb
    split
    · rename_i hid
      refine writes_of_putDocument hdb (by rw [hid]; rfl) ?_ rfl
      rw [hid]
      exact StoredDocument.succeeds_create ..
    · rename_i d rev hid
      split
      · rename_i hrev
        refine writes_of_putDocument hdb (by rw [hid, ← hrev]; rfl) ?_ rfl
        rw [hid]
        exact StoredDocument.succeeds_update ..
      · exact writes_of_refusal _ (step_freshHash s)
    · exact writes_of_refusal _ (step_freshHash s)

lemma writes_writeAttachment (s : Server) (db id name : String) (rev : Option String)
    (attachment : StoredAttachment) :
    Writes s db id rev (s.writeAttachment db id name rev attachment) := by
  unfold writeAttachment
  simp only
  split
  · exact writes_of_refusal _ (step_freshHash s)
  · rename_i database hdb
    split
    · exact writes_of_refusal _ (step_freshHash s)
    · rename_i d hid
      split
      · rename_i hrev
        refine writes_of_putDocument hdb (by rw [hid, hrev]; rfl) ?_ rfl
        rw [hid]
        exact StoredDocument.succeeds_advance ..
      · exact writes_of_refusal _ (step_freshHash s)

/-! ### Requests -/

lemma issued_append (deeds deeds' : List Deed) :
    issued (deeds ++ deeds') = issued deeds ++ issued deeds' := List.filterMap_append

/-- What is done on the way from one state to another, and the revisions that are reported for it:
all that are issued, in their order. -/
structure Does (s : Server) (deeds : List Deed) (reports : List String) (t : Server) : Prop where
  steps : Steps s deeds t
  reports : reports = (issued deeds).map (·.display)

namespace Does

lemma refl (s : Server) : Does s [] [] s := ⟨.refl s, rfl⟩

lemma rest {s t : Server} (documents : t.document? = s.document?) (hashes : s.hashes ≤ t.hashes) :
    Does s [] [] t := ⟨(Step.rest documents hashes).steps, rfl⟩

lemma trans {s t u : Server} {deeds deeds' : List Deed} {reports reports' : List String}
    (h : Does s deeds reports t) (h' : Does t deeds' reports' u) :
    Does s (deeds ++ deeds') (reports ++ reports') u where
  steps := h.steps.trans h'.steps
  reports := by rw [h.reports, h'.reports, issued_append, List.map_append]

end Does

/-- The revisions that the results of single documents report. -/
def resultRevisions (results : List Json) : List String :=
  results.filterMap fun result => (result.field "rev").string?

lemma resultRevisions_append (results results' : List Json) :
    resultRevisions (results ++ results') = resultRevisions results ++ resultRevisions results' :=
  List.filterMap_append

lemma Writes.does {s : Server} {db id : String} {base : Option String}
    {out : Except Refusal Revision × Server} (h : Writes s db id base out) :
    Does s (s.updated db id base out) (out.1.toOption.toList.map (·.display)) out.2 :=
  ⟨h.step.steps, by rw [h.issued]⟩

lemma does_entryId (s : Server) (entry : Json) : Does s [] [] (s.entryId entry).2 := by
  unfold entryId
  split
  · exact Does.refl s
  · exact ⟨(step_freshHash s).steps, rfl⟩

lemma does_writeEntry (s : Server) (db : String) (entry : Json) :
    Does s (s.entryDeeds db entry) (resultRevisions [(s.writeEntry db entry).1])
      (s.writeEntry db entry).2 := by
  have hwrites := (does_entryId s entry).trans (writes_writeDocument (s.entryId entry).2 db
    (s.entryId entry).1 (entry.field "_rev").string? entry).does
  unfold entryDeeds writeEntry
  simp only
  generalize (s.entryId entry).2.writeDocument db (s.entryId entry).1
    (entry.field "_rev").string? entry = out at hwrites ⊢
  obtain ⟨refusal | rev, t⟩ := out
  · exact hwrites
  · exact hwrites

lemma does_writeEntries (s : Server) (db : String) (entries : List Json) :
    Does s (s.entriesDeeds db entries) (resultRevisions (s.writeEntries db entries).1)
      (s.writeEntries db entries).2 := by
  induction entries generalizing s with
  | nil => exact Does.refl s
  | cons entry entries ih =>
    have := (does_writeEntry s db entry).trans (ih _)
    rwa [← resultRevisions_append] at this

lemma does_replicateEntry (s : Server) (db : String) (entry : Json) :
    Does s (s.replicaDeeds db entry) (resultRevisions (s.replicateEntry db entry).1.toList)
      (s.replicateEntry db entry).2 := by
  unfold replicaDeeds replicateEntry
  simp only
  cases (entry.field "_rev").string?.bind Revision.parse? with
  | none => exact Does.refl s
  | some rev =>
    cases hdb : s.databases.get? db with
    | none => exact Does.refl s
    | some database =>
      have hputs := puts_putDocument hdb ((entry.field "_id").string?.getD "")
        (replicated (database.documents.get? ((entry.field "_id").string?.getD "")) rev
          (StoredDocument.fieldsOf entry))
      rw [← document?_of_get? hdb] at hputs
      have hstep := Step.replica rev (StoredDocument.fieldsOf entry) hputs rfl
      rw [document?_of_get? hdb] at hstep
      exact ⟨hstep.steps, rfl⟩

lemma does_replicateEntries (s : Server) (db : String) (entries : List Json) :
    Does s (s.replicasDeeds db entries) (resultRevisions (s.replicateEntries db entries).1)
      (s.replicateEntries db entries).2 := by
  induction entries generalizing s with
  | nil => exact Does.refl s
  | cons entry entries ih =>
    have := (does_replicateEntry s db entry).trans (ih _)
    rwa [← resultRevisions_append] at this

lemma does_writeBulk (s : Server) (db : String) (body : Json) :
    Does s (s.bulkDeeds db body) (resultRevisions ((s.writeBulk db body).1.toOption.getD []))
      (s.writeBulk db body).2 := by
  unfold bulkDeeds writeBulk
  split
  · exact Does.refl s
  · cases (body.field "docs").array? with
    | none => exact Does.refl s
    | some entries =>
      dsimp only
      split
      · exact does_writeEntries s db entries
      · exact does_replicateEntries s db entries

/-- The revisions that an answer reports, if there is one. -/
def answerRevisions : Except TransportError Response → List String
  | .ok response => response.revisions
  | .error _ => []

/-- A refusal reports nothing, and does nothing here. -/
lemma does_refusal (s : Server) (refusal : Refusal) :
    Does s [] (answerRevisions (.ok refusal.response)) s := Does.refl s

lemma Writes.does_answerWrite {s : Server} {db id : String} {base : Option String}
    {out : Except Refusal Revision × Server} (h : Writes s db id base out) :
    Does s (s.updated db id base out) (answerRevisions (.ok (answerWrite id out).1))
      (answerWrite id out).2 := by
  have hdoes := h.does
  obtain ⟨refusal | rev, t⟩ := out
  · exact hdoes
  · exact hdoes

lemma does_execute (s : Server) (files : Files) (r : Request) (command : Command) :
    Does s (s.commandDeeds files r command) (answerRevisions (s.execute files r command).1)
      (s.execute files r command).2 := by
  cases command with
  | createDatabase db =>
    simp only [execute, commandDeeds]
    split
    · exact does_refusal s _
    · rename_i hdb
      refine Does.rest (document?_putDatabase fun id => ?_) (Nat.le_refl _)
      rw [document?_eq_none (by simpa [Table.contains] using hdb)]
      rfl
  | deleteDatabase db =>
    simp only [execute, commandDeeds]
    split
    · have hdelete : Step s [.delete db] { s with databases := s.databases.erase db } := by
        refine .delete ?_ ?_ rfl
        · simp [document?, Table.get?_erase]
        · intro db' id hne
          simp [document?, Table.get?_erase, Ne.symm hne]
      exact ⟨hdelete.steps, rfl⟩
    · exact does_refusal s _
  | putSecurity db =>
    simp only [execute, commandDeeds]
    split
    · rename_i database hdb
      exact Does.rest (document?_putDatabase fun id => (document?_of_get? hdb id).symm)
        (Nat.le_refl _)
    · exact does_refusal s _
  | writeBulk db =>
    have hbulk := does_writeBulk s db (jsonBody r)
    simp only [execute, commandDeeds]
    generalize s.writeBulk db (jsonBody r) = out at hbulk ⊢
    obtain ⟨refusal | results, t⟩ := out
    · exact hbulk
    · exact hbulk
  | writeDocument db id => exact (writes_writeDocument s db id _ _).does_answerWrite
  | writeAttachment db id name =>
    simp only [execute, commandDeeds]
    cases bodyBytes files r.body with
    | error e => exact Does.refl s
    | ok bytes => exact (writes_writeAttachment s db id name _ _).does_answerWrite

/-- A request is dropped or answered. -/
lemma does_handle (s : Server) (files : Files) (r : Request) :
    Does s (s.requestDeeds files r) (answerRevisions (s.handle files r).1)
      (s.handle files r).2 := by
  unfold requestDeeds handle
  dsimp only
  split
  · exact Does.rest rfl (Nat.le_refl _)
  · -- the log of requests is no part of any document
    have hlog : Does s [] [] { s with requests := s.requests.push r } :=
      Does.rest rfl (Nat.le_refl _)
    unfold respond
    cases Command.of? r with
    | none => exact hlog
    | some command => exact hlog.trans (does_execute _ files r command)

lemma document?_addDatabase (s : Server) (db : String) :
    (s.addDatabase db).document? = s.document? := by
  unfold addDatabase
  split
  · rfl
  · rename_i hdb
    refine document?_putDatabase fun id => ?_
    rw [document?_eq_none (by simpa [Table.contains] using hdb)]
    rfl

lemma hashes_addDatabase (s : Server) (db : String) : (s.addDatabase db).hashes = s.hashes := by
  unfold addDatabase
  split <;> rfl

lemma does_after (s : Server) (o : Occurrence) : Does s (s.deeds o) (s.reports o) (s.after o) := by
  cases o with
  | request files r => exact does_handle s files r
  | outage count => exact Does.rest rfl (Nat.le_refl _)
  | addDatabase db =>
    exact Does.rest (document?_addDatabase s db) (Nat.le_of_eq (hashes_addDatabase s db).symm)
  | reconnect => exact Does.rest rfl (Nat.le_refl _)

/-- The journal tells all steps, and clients learn of all revisions that are issued. -/
theorem does_journal (s : Server) (os : List Occurrence) :
    Does s (s.journal os) (s.reported os) (s.afterAll os) := by
  induction os generalizing s with
  | nil => exact Does.refl s
  | cons o os ih => exact (does_after s o).trans (ih _)

end CouchLoad.Server
