import CouchLoad.Couch.BulkResult
import CouchLoad.Couch.Error
import CouchLoad.Couch.Response

/-!
# Operations on the store

An operation is one request together with what its response means. Every response that is not a
success is a refusal, with one exception: a database that exists already is as good as one that
is created.
-/

namespace CouchLoad

/-- A request and what a response to it means. -/
structure Operation (α : Type) where
  request : Request
  read : Response → Except StoreError α

namespace Operation

variable {α : Type}

/-- The failure that a response reports. -/
def refusal (request : Request) (response : Response) : StoreError :=
  .refused request response.status response.errorReason

/-- An operation that looks only at responses of success. -/
def accepted (request : Request) (read : Json → Except StoreError α) : Operation α where
  request
  read response :=
    if response.isSuccess then read response.body else .error (refusal request response)

/-- The revision that the body of a response reports. -/
def readRevision (request : Request) (body : Json) : Except StoreError Revision :=
  match (body.field "rev").string? with
  | none => .error (.unexpectedResponse request .missingRev)
  | some text =>
    match Revision.parse? text with
    | some rev => .ok rev
    | none => .error (.unexpectedResponse request (.invalidRevision text))

/-- Any request, for the sake of its response. -/
def execute (request : Request) : Operation Response where
  request
  read response :=
    if response.isSuccess then .ok response else .error (refusal request response)

/-- How a database came to be there. -/
inductive Creation where
  | created
  | existing
  deriving DecidableEq, Repr

/-- Create a database. -/
def createDatabase (db : String) : Operation Creation where
  request := .plain .put [db]
  read response :=
    if response.isSuccess then .ok .created
    else if response.body.field "error" = .string "file_exists" then .ok .existing
    else .error (refusal (.plain .put [db]) response)

/-- Delete a database. -/
def deleteDatabase (db : String) : Operation Unit :=
  accepted (.plain .delete [db]) fun _ => .ok ()

/-- Set the security object of a database. -/
def putSecurity (db : String) (security : Json) : Operation Unit :=
  accepted ((Request.plain .put [db, "_security"]).withJson security) fun _ => .ok ()

/-- Write a document, on top of a revision if there is one. -/
def putDocument (db id : String) (rev : Option Revision) (body : Json) : Operation Revision :=
  let plain := (Request.plain .put [db, id]).withJson body
  let request := match rev with
    | none => plain
    | some rev => plain.withQuery "rev" rev.display
  accepted request (readRevision request)

/-- Write many documents at once. Without new edits the revisions are stored as they are given,
and the answer may leave out documents that were written. -/
def bulkDocuments (db : String) (documents : List Json) (newEdits : Bool) :
    Operation (List BulkResult) :=
  let docs := ("docs", Json.array documents)
  let body := if newEdits then [docs] else [("new_edits", .bool false), docs]
  let request := (Request.plain .post [db, "_bulk_docs"]).withJson (.object body)
  accepted request fun body =>
    match BulkResult.listOfJson? body with
    | some results => .ok results
    | none => .error (.unexpectedResponse request .notBulkResults)

/-- Upload an attachment on top of a revision of its document. -/
def putAttachment (db id name : String) (rev : Revision) (contentType : Option String)
    (body : Body) : Operation Revision :=
  let request := ((Request.plain .put [db, id, name]).withQuery "rev" rev.display).withBody body
    contentType
  accepted request (readRevision request)

end Operation

end CouchLoad
