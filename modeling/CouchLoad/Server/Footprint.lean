import CouchLoad.Server.Handle

/-!
# What a request names

A request names a database by its path, and documents in it: by its path again, or by the entries of
its body. The entries of a bulk write are taken one after the other, and each of them comes with the
states of the server before and after it and with what the answer says about it. All of this only
looks at the server; it changes nothing.
-/

namespace CouchLoad

/-- What becomes of one entry of a bulk write. -/
structure EntryRun where
  entry : Json
  /-- The id under which the entry is to be stored. -/
  id : String
  before : Server
  after : Server
  /-- What the answer says about the entry, which may be nothing. -/
  results : List Json

namespace EntryRun

/-- The answer says that the entry was not stored. -/
def Refused (run : EntryRun) : Prop :=
  ∃ result ∈ run.results, result.field "error" ≠ .null

/-- Runs of entries that lead from one state of the server to another. -/
inductive Leads : Server → List EntryRun → Server → Prop where
  | nil (s : Server) : Leads s [] s
  | cons (run : EntryRun) {runs : List EntryRun} {t : Server} (rest : Leads run.after runs t) :
      Leads run.before (run :: runs) t

end EntryRun

namespace Server

/-- Whether a request was accepted. -/
def accepted : Except TransportError Response → Bool
  | .ok response => response.isSuccess
  | .error _ => false

/-- The database that a command is about. -/
def Command.database : Command → String
  | .createDatabase db | .deleteDatabase db | .putSecurity db | .writeBulk db => db
  | .writeDocument db _ | .writeAttachment db _ _ => db

/-- What becomes of an entry that is written. -/
def writeRun (db : String) (s : Server) (entry : Json) : EntryRun :=
  let (result, t) := s.writeEntry db entry
  ⟨entry, (s.entryId entry).1, s, t, [result]⟩

/-- What becomes of an entry whose revision is stored as it is. -/
def replicaRun (db : String) (s : Server) (entry : Json) : EntryRun :=
  let (result, t) := s.replicateEntry db entry
  ⟨entry, (entry.field "_id").string?.getD "", s, t, result.toList⟩

/-- What becomes of entries, one after the other. -/
def entryRuns (run : Server → Json → EntryRun) (s : Server) : List Json → List EntryRun
  | [] => []
  | entry :: entries => run s entry :: entryRuns run (run s entry).after entries

/-- What becomes of all entries of a body. -/
def bulkRuns (s : Server) (db : String) (body : Json) : List EntryRun :=
  if !s.databases.contains db then []
  else
    match (body.field "docs").array? with
    | none => []
    | some entries =>
      if (body.field "new_edits").bool?.getD true then entryRuns (writeRun db) s entries
      else entryRuns (replicaRun db) s entries

/-- The ids of the documents that a command names. -/
def addressed (s : Server) (r : Request) : Command → List String
  | .createDatabase _ | .deleteDatabase _ | .putSecurity _ => []
  | .writeBulk db => (s.bulkRuns db (jsonBody r)).map (·.id)
  | .writeDocument _ id | .writeAttachment _ id _ => [id]

end Server

end CouchLoad
