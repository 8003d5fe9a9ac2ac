import CouchLoad.Server.Basic

/-!
# Writing to the server

A write has to name the revision that is current, and no revision if there is no document yet.
Everything else is a conflict. Replicated revisions are stored as they are.
-/

namespace CouchLoad

/-- The fields of a body. -/
def StoredDocument.fieldsOf (body : Json) : Table Json :=
  (((body.object?.getD []).erase "_id").erase "_rev").erase "_attachments"

/-- The attachments inside a body. Their data is kept as it is written. -/
def StoredDocument.attachmentsOf (body : Json) : List (String × StoredAttachment) :=
  ((body.field "_attachments").object?.getD []).map fun (name, stub) =>
    (name, ⟨(stub.field "content_type").string?,
      Text.utf8Encode ((stub.field "data").string?.getD "").toList⟩)

namespace StoredDocument

/-- The document with one more revision, which becomes the current one. -/
def advance (d : StoredDocument) (hash : String) : StoredDocument :=
  let rev : Revision := ⟨d.rev.generation + 1, hash⟩
  { d with rev, history := d.history ++ [rev] }

/-- Store attachments, each in the place of one of the same name. -/
def attach (d : StoredDocument) (attachments : List (String × StoredAttachment)) :
    StoredDocument :=
  { d with
    attachments := attachments.foldl (fun t (name, a) => t.insert name a) d.attachments }

/-- Store a revision beside the current one, unless it is known. -/
def addConflict (d : StoredDocument) (rev : Revision) : StoredDocument :=
  if d.rev ≠ rev && !d.conflicts.contains rev then { d with conflicts := d.conflicts ++ [rev] }
  else d

/-- The document that a body makes, with its first revision. -/
def create (hash : String) (body : Json) : StoredDocument :=
  (first ⟨1, hash⟩ (fieldsOf body)).attach (attachmentsOf body)

/-- The document after a body is written on top of its current revision. -/
def update (d : StoredDocument) (hash : String) (body : Json) : StoredDocument :=
  ({ d.advance hash with body := fieldsOf body }).attach (attachmentsOf body)

end StoredDocument

namespace Server

/-- Put a document in its place. -/
def putDocument (s : Server) (db : String) (database : Database) (id : String)
    (d : StoredDocument) : Server :=
  s.putDatabase db { database with documents := database.documents.insert id d }

/-- Write a document on top of a revision, or without one. -/
def writeDocument (s : Server) (db id : String) (rev : Option String) (body : Json) :
    Except Refusal Revision × Server :=
  let (hash, s) := s.freshHash
  match s.databases.get? db with
  | none => (.error .noDatabase, s)
  | some database =>
    match database.documents.get? id, rev with
    | none, none =>
      let d := StoredDocument.create hash body
      (.ok d.rev, s.putDocument db database id d)
    | some d, some rev =>
      if d.rev.display = rev then
        let d := d.update hash body
        (.ok d.rev, s.putDocument db database id d)
      else (.error .conflict, s)
    | _, _ => (.error .conflict, s)

/-- Write an attachment on top of a revision of its document. -/
def writeAttachment (s : Server) (db id name : String) (rev : Option String)
    (attachment : StoredAttachment) : Except Refusal Revision × Server :=
  let (hash, s) := s.freshHash
  match s.databases.get? db with
  | none => (.error .missing, s)
  | some database =>
    match database.documents.get? id with
    | none => (.error .missing, s)
    | some d =>
      if rev = some d.rev.display then
        let d := (d.advance hash).attach [(name, attachment)]
        (.ok d.rev, s.putDocument db database id d)
      else (.error .conflict, s)

/-! ### Bulk writes -/

/-- The result of a document that was written. -/
def written (id : String) (rev : Revision) : Json :=
  .object [("ok", .bool true), ("id", .string id), ("rev", .string rev.display)]

/-- The result of a document that was not written. -/
def unwritten (id error reason : String) : Json :=
  .object [("id", .string id), ("error", .string error), ("reason", .string reason)]

/-- The id under which an entry is written. An entry without one gets one from the counter. -/
def entryId (s : Server) (entry : Json) : String × Server :=
  match (entry.field "_id").string? with
  | some id => (id, s)
  | none =>
    let (hash, s) := s.freshHash
    ("generated-" ++ hash, s)

/-- Write one entry of many, on top of the revision that it names. -/
def writeEntry (s : Server) (db : String) (entry : Json) : Json × Server :=
  let (id, s) := s.entryId entry
  match s.writeDocument db id (entry.field "_rev").string? entry with
  | (.ok rev, s) => (written id rev, s)
  | (.error _, s) => (unwritten id Refusal.conflict.error Refusal.conflict.reason, s)

/-- Store the revision of an entry as it is. It makes a document, or a conflict beside the
current revision. Only a failure has a result. -/
def replicateEntry (s : Server) (db : String) (entry : Json) : Option Json × Server :=
  let id := (entry.field "_id").string?.getD ""
  match (entry.field "_rev").string?.bind Revision.parse? with
  | none => (some (unwritten id "bad_request" "Document must have a valid _rev"), s)
  | some rev =>
    match s.databases.get? db with
    | none => (some (unwritten id Refusal.noDatabase.error Refusal.noDatabase.reason), s)
    | some database =>
      let d := match database.documents.get? id with
        | some d => d.addConflict rev
        | none => StoredDocument.first rev (StoredDocument.fieldsOf entry)
      (none, s.putDocument db database id d)

/-- Write entries one after the other. -/
def writeEntries (s : Server) (db : String) : List Json → List Json × Server
  | [] => ([], s)
  | entry :: entries =>
    let (result, s) := s.writeEntry db entry
    let (results, s) := s.writeEntries db entries
    (result :: results, s)

/-- Store the revisions of entries one after the other. -/
def replicateEntries (s : Server) (db : String) : List Json → List Json × Server
  | [] => ([], s)
  | entry :: entries =>
    let (result, s) := s.replicateEntry db entry
    let (results, s) := s.replicateEntries db entries
    (result.toList ++ results, s)

/-- Write all entries of a body, with new revisions unless the body says otherwise. -/
def writeBulk (s : Server) (db : String) (body : Json) : Except Refusal (List Json) × Server :=
  if !s.databases.contains db then (.error .noDatabase, s)
  else
    match (body.field "docs").array? with
    | none => (.error .missingDocuments, s)
    | some entries =>
      let (results, s) :=
        if (body.field "new_edits").bool?.getD true then s.writeEntries db entries
        else s.replicateEntries db entries
      (.ok results, s)

end Server

end CouchLoad
