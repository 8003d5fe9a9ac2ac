import CouchLoad.Couch.Revision
import CouchLoad.Document.Basic
import CouchLoad.Load.Samples
import CouchLoad.Program.Session
import CouchLoad.Table

/-!
# Known revisions and conflicts

A worker remembers the latest revision of every document that it has written many at once. No
other worker writes the same documents, so what it remembers is what the server holds.

A conflict is a revision beside the one that is known of a document: of the same generation, but
with a hash of its own. It is written as it is, without new edits.
-/

namespace CouchLoad

/-- The latest known revision of each document. -/
abbrev Tracker := Table Revision

/-- Remember a revision, and return the one that was known before. -/
def Tracker.record (t : Tracker) (id : String) (rev : Revision) : Option Revision × Tracker :=
  (t.get? id, t.insert id rev)

namespace Conflict

open Entropy

/-- The bodies that give every known document one more revision. Documents without a known
revision are left out. -/
def forge (tracker : Tracker) : List Document → Source → List Json × Source
  | [], s => ([], s)
  | d :: ds, s =>
    match tracker.get? d.id with
    | none => forge tracker ds s
    | some rev =>
      let (hash, s) := Uuid.draw s
      let (bodies, s) := forge tracker ds s
      (({ d with rev := some (rev.conflictingSibling hash).display }).bulkBody :: bodies, s)

/-- What came of writing conflicts. -/
structure Outcome where
  written : Nat := 0
  failed : Nat := 0
  times : Array Nat := #[]
  deriving DecidableEq, Repr

namespace Outcome

/-- Add a request that was accepted. -/
def accept (o : Outcome) (submitted failed time : Nat) : Outcome where
  written := o.written + (submitted - failed)
  failed := o.failed + failed
  times := o.times.push time

/-- Add a request that failed. -/
def reject (o : Outcome) (submitted time : Nat) : Outcome :=
  { o with failed := o.failed + submitted, times := o.times.push time }

end Outcome

/-- The failures among the results of one request, as they are told. -/
def failures (db : String) (pass : Nat) (results : List BulkResult) : List String :=
  results.filterMap fun r => r.failure?.map fun reason =>
    let id := r.id.getD "?"
    s!"Error uploading conflict for document {id} in '{db}' " ++
      s!"(conflict number {pass}): {reason}"

variable {σ : Type}

/-- Write one conflict for every known document in each pass. -/
def injectPasses (db : String) (documents : List Document) (tracker : Tracker) (o : Outcome)
    (s : Source) : List Nat → Session σ (Outcome × Source)
  | [] => return (o, s)
  | pass :: passes => do
    let (bodies, s) := forge tracker documents s
    if bodies.isEmpty then return (o, s)
    let submitted := bodies.length
    let (result, time) ← Session.timed (Session.perform (.bulkDocuments db bodies false))
    match result with
    | .ok results =>
      let failures := failures db pass results
      Session.noteAll .conflicts (failures.map fun message => (.error, message))
      Session.note .info .conflicts <|
        s!"Uploaded {submitted} conflict documents via _bulk_docs to '{db}' " ++
          s!"(conflict number {pass})"
      injectPasses db documents tracker (o.accept submitted failures.length time) s passes
    | .error e =>
      Session.note .error .conflicts <|
        s!"Error uploading {submitted} conflict documents to '{db}' " ++
          s!"(conflict number {pass}): {e.message}"
      injectPasses db documents tracker (o.reject submitted time) s passes

/-- Write conflicts in a number of passes. -/
def inject (db : String) (passes : Nat) (documents : List Document) (tracker : Tracker)
    (s : Source) : Session σ (Outcome × Source) :=
  injectPasses db documents tracker {} s (List.range' 1 passes)

end Conflict

end CouchLoad
