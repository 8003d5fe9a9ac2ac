import CouchLoad.Load.Summary
import CouchLoad.Load.Worker
import CouchLoad.Program.Pool

/-!
# Runs

A run goes through the databases one after the other. Each one is created over the connection of
the run itself, then filled by workers with connections of their own, then given its security
object. Failures of requests are noted and counted; a connection that cannot be opened ends the
run.
-/

namespace CouchLoad

open Entropy

/-- What carries a run out. -/
structure Host (κ : Type) (m : Type → Type) where
  /-- Open a connection. -/
  connect : m (Except TransportError κ)
  /-- Do what a program asks for, over a connection. -/
  perform : κ → (action : Action) → m action.Answer
  /-- A source of randomness that nobody else uses. -/
  newSource : m Source
  /-- Carry out workers side by side. -/
  together : Pool κ (Link Progress) Report → m (List Report)

/-- Carry out a session over a connection. -/
def Host.session {κ α : Type} {m : Type → Type} [Monad m] (host : Host κ m) (connection : κ)
    (s : Session Unit α) : m α := do
  let (value, _) ← (s.run { owner := () }).run (host.perform connection)
  return value

namespace Config

/-- Take note of something. -/
def note (level : Level) (message : String) : Session Unit Unit :=
  Session.note level .populator message

/-- Delete a database if that is wanted. -/
def clear (c : Config) (db : String) : Session Unit Unit := do
  if c.recreate then
    match ← Session.perform (.deleteDatabase db) with
    | .ok () => note .info s!"Deleted database '{db}'"
    | .error e => note .debug s!"Couldn't delete database '{db}': {e.message}"

/-- Create a database, and tell whether it is there now. -/
def create (db : String) : Session Unit Bool := do
  match ← Session.perform (.createDatabase db) with
  | .ok .created =>
    note .info s!"Created database '{db}'"
    return true
  | .ok .existing =>
    note .warn s!"Database '{db}' already exists, adding documents to it"
    return true
  | .error e =>
    note .error s!"Error creating database '{db}': {e.message}"
    return false

/-- The shares of the workers. -/
def partitions (c : Config) : List Partition :=
  Partition.divide c.documents c.workers c.firstCounter

/-- The workers of a database. -/
def team (c : Config) (db : String) : List Worker :=
  c.partitions.mapIdx fun i partition => { number := i + 1, db, partition, config := c }

/-- Tell who will do what. -/
def announce (c : Config) (db : String) : Session Unit Unit := do
  note .debug (Partition.plan c.partitions)
  note .info <|
    s!"Populating database '{db}' with {c.documents} documents " ++
      s!"using {c.partitions.length} workers"

/-- Tell what the workers have done. -/
def recount : List Report → Session Unit Unit
  | [] => return ()
  | r :: rs => do
    note .debug <|
      s!"Worker {r.number} finished docs {r.partition.display}: " ++
        s!"{r.stats.documentWrites} writes, {r.stats.failures} failures"
    recount rs

/-- Set the security object if there is one. -/
def secure (c : Config) (db : String) : Session Unit Unit :=
  match c.security with
  | none => return ()
  | some security => do
    match ← Session.perform (.putSecurity db security) with
    | .ok () => note .info s!"Updated security object of database '{db}'"
    | .error e => note .error s!"Error updating security object of database '{db}': {e.message}"

end Config

namespace Run

variable {κ : Type} {m : Type → Type} [Monad m] (host : Host κ m) (c : Config)

/-- Open a connection for each worker and give it a source of randomness. -/
def hire : List Worker → m (Except TransportError (Pool κ (Link Progress) Report))
  | [] => return .ok []
  | w :: ws => do
    match ← host.connect with
    | .error e => return .error e
    | .ok connection =>
      let source ← host.newSource
      return (← hire ws).map ((connection, w.program source) :: ·)

/-- Tell the time, over some connection. -/
def clock (connection : κ) : m Nat :=
  host.session connection (Session.ask .clock)

/-- Fill a database that is there. -/
def fill (admin : κ) (db : String) : m (Except TransportError (List Report)) := do
  host.session admin (c.announce db)
  match ← hire host (c.team db) with
  | .error e => return .error e
  | .ok pool =>
    let reports ← host.together pool
    host.session admin (Config.recount reports)
    host.session admin (c.secure db)
    return .ok reports

/-- Create and fill a database. There is no summary of a database that cannot be created. -/
def populate (admin : κ) (db : String) :
    m (Except TransportError (Option (DatabaseSummary × List Report))) := do
  let started ← clock host admin
  host.session admin (c.clear db)
  if ← host.session admin (Config.create db) then
    match ← fill host c admin db with
    | .error e => return .error e
    | .ok reports =>
      let ended ← clock host admin
      let summary : DatabaseSummary :=
        { name := db, documents := c.documents
          stats := Stats.total (reports.map Report.stats), elapsed := ended - started }
      host.session admin (Config.note .info summary.display)
      return .ok (some (summary, reports))
  else return .ok none

/-- Populate databases one after the other, and add what becomes of them to a summary. -/
def populateAll (admin : κ) (done : Summary) : List String → m (Except TransportError Summary)
  | [] => return .ok done
  | db :: dbs => do
    match ← populate host c admin db with
    | .error e => return .error e
    | .ok none => populateAll admin done dbs
    | .ok (some (summary, reports)) =>
      let samples := reports.foldl (fun s r => s ++ r.samples) done.samples
      populateAll admin ⟨done.databases ++ [summary], samples⟩ dbs

/-- A whole run. -/
def execute : m (Except TransportError Summary) := do
  match ← host.connect with
  | .error e => return .error e
  | .ok admin => populateAll host c admin ⟨[], {}⟩ c.databaseNames

end Run

end CouchLoad
