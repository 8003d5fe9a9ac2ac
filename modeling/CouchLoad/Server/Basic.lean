import CouchLoad.Couch.Request
import CouchLoad.Couch.Response
import CouchLoad.Couch.Revision
import CouchLoad.Table

/-!
# A server in memory

The server keeps documents with their revisions. The revision that is current changes with every
write that names it; conflicts stand beside it. Revisions are told apart by a counter, which goes
up with every attempt to write.
-/

namespace CouchLoad

/-- An attachment as it is stored. -/
structure StoredAttachment where
  contentType : Option String
  bytes : List UInt8
  deriving DecidableEq, Repr

/-- A document as it is stored. -/
structure StoredDocument where
  rev : Revision
  /-- The fields of the current revision. -/
  body : Table Json
  /-- All revisions that were current at some time, oldest first. -/
  history : List Revision
  conflicts : List Revision := []
  attachments : Table StoredAttachment := []
  deriving DecidableEq, Repr

/-- A document with its first revision. -/
def StoredDocument.first (rev : Revision) (body : Table Json) : StoredDocument :=
  { rev, body, history := [rev] }

/-- A database as it is stored. -/
structure Database where
  documents : Table StoredDocument := []
  security : Option Json := none
  deriving DecidableEq, Repr

/-- The state of the server. -/
structure Server where
  databases : Table Database := []
  /-- All requests that have come in, oldest first. -/
  requests : Array Request := #[]
  /-- How many of the next requests are dropped. -/
  pendingFailures : Nat := 0
  reconnects : Nat := 0
  /-- The number of hashes that have been given out. -/
  hashes : Nat := 0
  deriving DecidableEq

/-- Why a request is refused. -/
inductive Refusal where
  | noDatabase
  | missing
  | conflict
  | databaseExists
  | missingDocuments
  | unsupported
  deriving DecidableEq, Repr

namespace Refusal

/-- The status of the response. -/
def status : Refusal → Nat
  | noDatabase | missing => 404
  | conflict => 409
  | databaseExists => 412
  | missingDocuments | unsupported => 400

/-- The short name of the error. -/
def error : Refusal → String
  | noDatabase | missing => "not_found"
  | conflict => "conflict"
  | databaseExists => "file_exists"
  | missingDocuments | unsupported => "bad_request"

/-- The reason that is given. -/
def reason : Refusal → String
  | noDatabase => "Database does not exist."
  | missing => "missing"
  | conflict => "Document update conflict."
  | databaseExists => "The database could not be created, the file already exists."
  | missingDocuments => "Missing docs"
  | unsupported => "Unsupported request"

/-- The response that refuses a request. -/
def response (r : Refusal) : Response :=
  ⟨r.status, .object [("error", .string r.error), ("reason", .string r.reason)]⟩

end Refusal

namespace Server

/-- The document of an id in a database. -/
def document? (s : Server) (db id : String) : Option StoredDocument :=
  (s.databases.get? db).bind (·.documents.get? id)

/-- Put a database in its place. -/
def putDatabase (s : Server) (db : String) (database : Database) : Server :=
  { s with databases := s.databases.insert db database }

/-- Create a database without a request, unless it is there. -/
def addDatabase (s : Server) (db : String) : Server :=
  if s.databases.contains db then s else s.putDatabase db {}

/-- A hash that has not been given out before. -/
def freshHash (s : Server) : String × Server :=
  let n := s.hashes + 1
  (String.ofList (Text.hex 32 n), { s with hashes := n })

end Server

end CouchLoad
