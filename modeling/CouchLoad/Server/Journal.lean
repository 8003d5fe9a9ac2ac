import CouchLoad.Server.Handle

/-!
# The journal of a server

What the server does to its documents while things happen to it: every revision that it issues,
every revision that is replicated, and every database that is deleted. The journal goes along the
way of each request and looks at the documents before and after; it changes nothing.
-/

namespace CouchLoad

/-- The document in one place before and after something is done to it. -/
structure Change where
  db : String
  id : String
  before : Option StoredDocument
  after : Option StoredDocument
  deriving DecidableEq, Repr

/-- What is done to the documents of a server. -/
inductive Deed where
  /-- A revision is written on top of the one that is named, if any. -/
  | update (base : Option String) (c : Change)
  /-- A revision is stored as it is. -/
  | replica (c : Change)
  /-- A database is deleted. -/
  | delete (db : String)
  deriving DecidableEq, Repr

namespace Deed

/-- The revision that is issued. -/
def issued? : Deed → Option Revision
  | .update _ c => c.after.map (·.rev)
  | _ => none

/-- What a write to a place names: a revision or none. -/
def base? (db id : String) : Deed → Option (Option String)
  | .update base c => if c.db = db ∧ c.id = id then some base else none
  | _ => none

end Deed

/-- The revisions that are issued, oldest first. -/
def issued (deeds : List Deed) : List Revision :=
  deeds.filterMap Deed.issued?

/-- What the accepted writes to a place name, oldest first. -/
def bases (db id : String) (deeds : List Deed) : List (Option String) :=
  deeds.filterMap (Deed.base? db id)

/-- The revisions that a response reports. -/
def Response.revisions (r : Response) : List String :=
  match r.body with
  | .array results => results.filterMap fun result => (result.field "rev").string?
  | body => (body.field "rev").string?.toList

namespace Server

/-- What has become of a document. -/
def change (s t : Server) (db id : String) : Change :=
  ⟨db, id, s.document? db id, t.document? db id⟩

/-- What a write does, if it is not refused. -/
def updated (s : Server) (db id : String) (base : Option String) :
    Except Refusal Revision × Server → List Deed
  | (.ok _, t) => [.update base (s.change t db id)]
  | (.error _, _) => []

/-- What writing one entry of many does. -/
def entryDeeds (s : Server) (db : String) (entry : Json) : List Deed :=
  let (id, s) := s.entryId entry
  let base := (entry.field "_rev").string?
  s.updated db id base (s.writeDocument db id base entry)

/-- What storing the revision of one entry does. -/
def replicaDeeds (s : Server) (db : String) (entry : Json) : List Deed :=
  match s.replicateEntry db entry with
  | (none, t) => [.replica (s.change t db ((entry.field "_id").string?.getD ""))]
  | (some _, _) => []

/-- What writing entries does, one after the other. -/
def entriesDeeds (s : Server) (db : String) : List Json → List Deed
  | [] => []
  | entry :: entries => s.entryDeeds db entry ++ (s.writeEntry db entry).2.entriesDeeds db entries

/-- What storing the revisions of entries does, one after the other. -/
def replicasDeeds (s : Server) (db : String) : List Json → List Deed
  | [] => []
  | entry :: entries =>
    s.replicaDeeds db entry ++ (s.replicateEntry db entry).2.replicasDeeds db entries

/-- What writing all entries of a body does. -/
def bulkDeeds (s : Server) (db : String) (body : Json) : List Deed :=
  if !s.databases.contains db then []
  else
    match (body.field "docs").array? with
    | none => []
    | some entries =>
      if (body.field "new_edits").bool?.getD true then s.entriesDeeds db entries
      else s.replicasDeeds db entries

/-- What a command does. -/
def commandDeeds (s : Server) (files : Files) (r : Request) : Command → List Deed
  | .createDatabase _ | .putSecurity _ => []
  | .deleteDatabase db => if s.databases.contains db then [.delete db] else []
  | .writeBulk db => s.bulkDeeds db (jsonBody r)
  | .writeDocument db id =>
    let rev := (r.queryParam? "rev").or ((jsonBody r).field "_rev").string?
    s.updated db id rev (s.writeDocument db id rev (jsonBody r))
  | .writeAttachment db id name =>
    match bodyBytes files r.body with
    | .error _ => []
    | .ok bytes =>
      let rev := r.queryParam? "rev"
      s.updated db id rev (s.writeAttachment db id name rev ⟨r.contentType, bytes⟩)

/-- What a request does. -/
def requestDeeds (s : Server) (files : Files) (r : Request) : List Deed :=
  let s := { s with requests := s.requests.push r }
  if s.pendingFailures > 0 then []
  else
    match Command.of? r with
    | some command => s.commandDeeds files r command
    | none => []

/-! ### All that happens to a server -/

/-- Something that happens to a server. -/
inductive Occurrence where
  /-- A request comes in, while the files are as given. -/
  | request (files : Files) (r : Request)
  | outage (count : Nat)
  | addDatabase (db : String)
  | reconnect

/-- The server after something has happened. -/
def after (s : Server) : Occurrence → Server
  | .request files r => (s.handle files r).2
  | .outage count => s.failNext count
  | .addDatabase db => s.addDatabase db
  | .reconnect => s.reconnect

/-- The server after some things have happened, one after the other. -/
def afterAll (s : Server) : List Occurrence → Server
  | [] => s
  | o :: os => (s.after o).afterAll os

/-- What something that happens does. -/
def deeds (s : Server) : Occurrence → List Deed
  | .request files r => s.requestDeeds files r
  | _ => []

/-- All that is done while some things happen, oldest first. -/
def journal (s : Server) : List Occurrence → List Deed
  | [] => []
  | o :: os => s.deeds o ++ (s.after o).journal os

/-- The revisions that are reported to the client when something happens. -/
def reports (s : Server) : Occurrence → List String
  | .request files r =>
    match (s.handle files r).1 with
    | .ok response => response.revisions
    | .error _ => []
  | _ => []

/-- All revisions that are reported to clients, oldest first. -/
def reported (s : Server) : List Occurrence → List String
  | [] => []
  | o :: os => s.reports o ++ (s.after o).reported os

end Server

end CouchLoad
