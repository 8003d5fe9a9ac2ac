import CouchLoad.Couch.Error
import CouchLoad.Server.Write

/-!
# Answering requests

Every request is logged. As long as failures are pending, requests are dropped before anything
else is done about them.
-/

namespace CouchLoad.Server

/-- What a request asks the server to do. -/
inductive Command where
  | createDatabase (db : String)
  | deleteDatabase (db : String)
  | putSecurity (db : String)
  | writeBulk (db : String)
  | writeDocument (db id : String)
  | writeAttachment (db id name : String)
  deriving DecidableEq, Repr

/-- The command of a request, from its method and its path. -/
def Command.of? (r : Request) : Option Command :=
  match r.method, r.path with
  | .put, [db] => some (.createDatabase db)
  | .delete, [db] => some (.deleteDatabase db)
  | .put, [db, "_security"] => some (.putSecurity db)
  | .post, [db, "_bulk_docs"] => some (.writeBulk db)
  | .put, [db, id] => some (.writeDocument db id)
  | .put, [db, id, name] => some (.writeAttachment db id name)
  | _, _ => none

/-- The JSON body of a request; null if it has none. -/
def jsonBody (r : Request) : Json :=
  match r.body with
  | .json v => v
  | _ => .null

/-- The bytes that the body of a request sends. -/
def bodyBytes (files : Files) : Body → Except TransportError (List UInt8)
  | .empty => .ok []
  | .json v => .ok (Text.utf8Encode v.toText.toList)
  | .bytes bytes => .ok bytes
  | .file path => (files path).mapError (.file path)

/-- A response without much to say. -/
def done (status : Nat) : Response :=
  ⟨status, .object [("ok", .bool true)]⟩

/-- The response to a write of one document. -/
def answerWrite (id : String) : Except Refusal Revision × Server → Response × Server
  | (.ok rev, s) => (⟨201, written id rev⟩, s)
  | (.error refusal, s) => (refusal.response, s)

/-- Do what a request asks for. -/
def execute (s : Server) (files : Files) (r : Request) :
    Command → Except TransportError Response × Server
  | .createDatabase db =>
    if s.databases.contains db then (.ok Refusal.databaseExists.response, s)
    else (.ok (done 201), s.putDatabase db {})
  | .deleteDatabase db =>
    if s.databases.contains db then
      (.ok (done 200), { s with databases := s.databases.erase db })
    else (.ok Refusal.noDatabase.response, s)
  | .putSecurity db =>
    match s.databases.get? db with
    | some database =>
      (.ok (done 200), s.putDatabase db { database with security := some (jsonBody r) })
    | none => (.ok Refusal.noDatabase.response, s)
  | .writeBulk db =>
    match s.writeBulk db (jsonBody r) with
    | (.ok results, s) => (.ok ⟨201, .array results⟩, s)
    | (.error refusal, s) => (.ok refusal.response, s)
  | .writeDocument db id =>
    let rev := (r.queryParam? "rev").or ((jsonBody r).field "_rev").string?
    let (response, s) := answerWrite id (s.writeDocument db id rev (jsonBody r))
    (.ok response, s)
  | .writeAttachment db id name =>
    match bodyBytes files r.body with
    | .error e => (.error e, s)
    | .ok bytes =>
      let rev := r.queryParam? "rev"
      let (response, s) := answerWrite id (s.writeAttachment db id name rev ⟨r.contentType, bytes⟩)
      (.ok response, s)

/-- Respond to a request that has got through. -/
def respond (s : Server) (files : Files) (r : Request) :
    Except TransportError Response × Server :=
  match Command.of? r with
  | some command => s.execute files r command
  | none => (.ok Refusal.unsupported.response, s)

/-- Answer a request. -/
def handle (s : Server) (files : Files) (r : Request) :
    Except TransportError Response × Server :=
  let s := { s with requests := s.requests.push r }
  if s.pendingFailures > 0 then
    (.error (.disconnected "injected failure"),
      { s with pendingFailures := s.pendingFailures - 1 })
  else s.respond files r

/-- Let the next requests be dropped. -/
def failNext (s : Server) (count : Nat) : Server :=
  { s with pendingFailures := count }

/-- Accept a connection in the place of another one. -/
def reconnect (s : Server) : Server :=
  { s with reconnects := s.reconnects + 1 }

end CouchLoad.Server
