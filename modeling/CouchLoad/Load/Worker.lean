import CouchLoad.Load.Config
import CouchLoad.Load.Conflict
import CouchLoad.Load.Partition
import CouchLoad.Load.Stats

/-!
# Workers

A worker writes the documents of one partition. Where batches hold one document, each document
is written revision after revision, and then its attachments are uploaded. Larger batches are
written in passes, one for each revision; after the last one conflicts may follow each batch.
-/

namespace CouchLoad

open Entropy

/-- A worker: its number, its database and its share of the counters. -/
structure Worker where
  number : Nat
  db : String
  partition : Partition
  config : Config

/-- What a worker keeps while it works. -/
structure Progress where
  tracker : Tracker := []
  stats : Stats := {}
  samples : Samples := {}
  source : Source
  /-- The passes that have come to their end. -/
  passes : Nat := 0
  /-- The batches that have been sent in the pass under way. -/
  batches : Nat := 0
  /-- Whether a batch has been sent whose results have not been recorded. -/
  inFlight : Bool := false

/-- What a worker leaves behind. -/
structure Report where
  number : Nat
  partition : Partition
  tracker : Tracker
  stats : Stats
  samples : Samples

/-- The work of a worker. -/
abbrev Work := Session Progress

namespace Progress

/-- Change the counts. -/
def count (p : Progress) (f : Stats → Stats) : Progress :=
  { p with stats := f p.stats }

/-- Add documents that failed. -/
def failDocuments (p : Progress) (n : Nat) : Progress :=
  p.count fun s => { s with documentFailures := s.documentFailures + n }

/-- Add a sample. -/
def sample (p : Progress) (kind : SampleKind) (time : Nat) : Progress :=
  { p with samples := p.samples.push kind time }

/-- Add a document that was written alone. -/
def writeDocument (p : Progress) (time : Nat) : Progress :=
  (p.sample .document time).count fun s => { s with documentWrites := s.documentWrites + 1 }

/-- Add an attachment that was uploaded. -/
def uploadAttachment (p : Progress) (time : Nat) : Progress :=
  (p.sample .attachment time).count fun s => { s with attachmentWrites := s.attachmentWrites + 1 }

/-- Add an attachment that failed. -/
def failAttachment (p : Progress) : Progress :=
  p.count fun s => { s with attachmentFailures := s.attachmentFailures + 1 }

/-- Send a batch. -/
def launch (p : Progress) : Progress :=
  { p with batches := p.batches + 1, inFlight := true }

/-- Have the answer to a batch. -/
def land (p : Progress) : Progress :=
  { p with inFlight := false }

/-- Come to the end of a pass. -/
def finishPass (p : Progress) : Progress :=
  { p with passes := p.passes + 1, batches := 0 }

/-- Add one result of a bulk write: remember the revision of its document, or count a failure. -/
def recordResult (p : Progress) (d : Document) (r : BulkResult) : Progress :=
  match r.revision? with
  | some rev =>
    { p with tracker := p.tracker.insert d.id rev }.count fun s =>
      { s with documentWrites := s.documentWrites + 1 }
  | none => p.failDocuments 1

/-- Add the results of a bulk write. Result and document belong together by their places, and
documents without a result count as failed. -/
def recordResults (p : Progress) : List Document → List BulkResult → Progress
  | [], _ => p
  | d :: ds, [] => p.failDocuments (d :: ds).length
  | d :: ds, r :: rs => (p.recordResult d r).recordResults ds rs

/-- Add what came of writing conflicts. -/
def recordConflicts (p : Progress) (o : Conflict.Outcome) (s : Source) : Progress :=
  { p with source := s, samples := p.samples.extend .document o.times }.count fun s =>
    { s with
      conflictWrites := s.conflictWrites + o.written
      conflictFailures := s.conflictFailures + o.failed }

end Progress

namespace Worker

/-- Take note of something. -/
def note (level : Level) (message : String) : Work Unit :=
  Session.note level .worker message

/-- Take note of a write, with its response time where that is wanted. -/
def noteWrite (w : Worker) (what : String) (time : Nat) : Work Unit :=
  note .info <| if w.config.times then
      s!"{what}  (response time: {ResponseTime.display time})"
    else what

/-- Generate the document of a counter. A document that cannot be generated counts as failed. -/
def generate (w : Worker) (counter : Nat) : Work (Option Document) := do
  let progress ← Session.owner
  let (made, source) ← Session.embed
    (w.config.template.generate (w.config.context counter) w.config.attachmentMode progress.source)
  match made with
  | .ok document =>
    Session.update fun p => { p with source }
    return some document
  | .error e =>
    Session.update fun p => { p with source }.failDocuments 1
    note .error s!"Couldn't generate document #{counter} for '{w.db}': {e.message}"
    return none

/-! ### Documents one by one -/

/-- Write revisions of a document, each on top of the one before it, and return the last one. The
first failure ends the chain. -/
def putRevisions (w : Worker) (d : Document) (current : Option Revision) :
    List Nat → Work (Option Revision)
  | [] => return current
  | pass :: passes => do
    let body := { d with rev := current.map Revision.display }.body
    let (result, time) ← Session.timed (Session.perform (.putDocument w.db d.id current body))
    match result with
    | .ok rev =>
      Session.update (·.writeDocument time)
      w.noteWrite s!"Created doc at /{w.db}/{d.id} (revision {rev.display})" time
      w.putRevisions d (some rev) passes
    | .error e =>
      Session.update (·.failDocuments 1)
      note .error <|
        s!"Error creating doc at /{w.db}/{d.id} (revision number {pass}): {e.message}"
      return none

/-- The body of a request that uploads an attachment. -/
def payloadBody : Payload → Body
  | .inline bytes => .bytes bytes
  | .file path => .file path

/-- What is told about an attachment that failed. -/
def attachmentFailure (place : String) : StoreError → String
  | .transport (.file path fault) =>
    s!"Couldn't open attachment file {path} for {place}: {fault.message}"
  | e => s!"Error uploading attachment at {place}: {e.message}"

/-- Upload attachments, each on top of the latest revision. A failure does not keep the others
from being uploaded. -/
def uploadAttachments (w : Worker) (id : String) (rev : Revision) :
    List Attachment → Work Unit
  | [] => return ()
  | a :: rest => do
    let place := s!"/{w.db}/{id}/{a.name}"
    let (result, time) ← Session.timed <| Session.perform <|
      .putAttachment w.db id a.name rev a.contentType (payloadBody a.payload)
    match result with
    | .ok next =>
      Session.update (·.uploadAttachment time)
      w.noteWrite s!"Uploaded attachment {place}" time
      note .debug s!"Doc at /{w.db}/{id} has now revision {next.display}"
      w.uploadAttachments id next rest
    | .error e =>
      Session.update (·.failAttachment)
      note .error (attachmentFailure place e)
      w.uploadAttachments id rev rest

/-- Write all revisions of a document and then its attachments. -/
def writeDocument (w : Worker) (d : Document) : Work Unit := do
  match ← w.putRevisions d none (List.range' 1 w.config.revisions) with
  | some rev => w.uploadAttachments d.id rev d.attachments
  | none => return ()

/-- Write the documents of some counters one by one. -/
def writeEach (w : Worker) : List Nat → Work Unit
  | [] => return ()
  | counter :: counters => do
    match ← w.generate counter with
    | some d => w.writeDocument d
    | none => pure ()
    w.writeEach counters

/-! ### Documents in batches -/

/-- What is told about the results of a bulk write. -/
def resultMessages (w : Worker) (pass : Nat) : List Document → List BulkResult → List String
  | [], _ => []
  | d :: ds, [] =>
    [s!"_bulk_docs on '{w.db}' returned {(d :: ds).length} fewer results than documents sent"]
  | d :: ds, r :: rs =>
    let rest := w.resultMessages pass ds rs
    match r.revision? with
    | some _ => rest
    | none =>
      let reason := r.failure?.getD "no revision returned"
      (s!"Error uploading document {d.id} via _bulk_docs to '{w.db}' " ++
        s!"(revision number {pass}): {reason}") :: rest

/-- Write a batch and remember the new revisions. -/
def flush (w : Worker) (pass : Nat) (batch : List Document) : Work Unit := do
  let bodies := batch.map Document.bulkBody
  Session.update Progress.launch
  let (result, time) ← Session.timed (Session.perform (.bulkDocuments w.db bodies true))
  Session.update Progress.land
  match result with
  | .ok results =>
    Session.update fun p => (p.sample .document time).recordResults batch results
    Session.noteAll .worker
      ((w.resultMessages pass batch results).map fun message => (.error, message))
    w.noteWrite s!"Uploaded {batch.length} documents via _bulk_docs to '{w.db}'" time
  | .error e =>
    Session.update fun p => (p.sample .document time).failDocuments batch.length
    note .error <|
      s!"Error uploading {batch.length} documents via _bulk_docs to '{w.db}' " ++
        s!"(revision number {pass}): {e.message}"

/-- Write conflicts for the documents of a batch. -/
def addConflicts (w : Worker) (batch : List Document) : Work Unit := do
  let progress ← Session.owner
  let (outcome, source) ←
    Conflict.inject w.db w.config.conflicts batch progress.tracker progress.source
  Session.update (·.recordConflicts outcome source)

/-- Write a batch; in the last pass conflicts follow. -/
def submit (w : Worker) (pass : Nat) (batch : List Document) : Work Unit := do
  w.flush pass batch
  if pass = w.config.revisions && w.config.conflicts > 0 then w.addConflicts batch

/-- Write the documents of some counters, of which `batch` waits to be written. -/
def writePass (w : Worker) (pass : Nat) (batch : List Document) : List Nat → Work Unit
  | [] => if batch.isEmpty then return () else w.submit pass batch
  | counter :: counters => do
    match ← w.generate counter with
    | none => w.writePass pass batch counters
    | some d =>
      let progress ← Session.owner
      let d := { d with rev := (progress.tracker.get? d.id).map Revision.display }
      let batch := batch ++ [d]
      if batch.length ≥ w.config.bulkBatch then
        w.submit pass batch
        w.writePass pass [] counters
      else w.writePass pass batch counters

/-- Write the documents of some counters in passes. -/
def writePasses (w : Worker) (counters : List Nat) : List Nat → Work Unit
  | [] => return ()
  | pass :: passes => do
    w.writePass pass [] counters
    Session.update Progress.finishPass
    w.writePasses counters passes

/-! ### The whole work -/

/-- Write all documents of the partition. -/
def work (w : Worker) : Work Unit := do
  note .debug s!"Worker {w.number} assigned docs {w.partition.display} of '{w.db}'"
  if w.config.usesBulk then
    w.writePasses w.partition.counters (List.range' 1 w.config.revisions)
  else w.writeEach w.partition.counters

/-- What a worker leaves behind at the end. -/
def report (w : Worker) (link : Link Progress) : Report :=
  let p := link.owner
  { number := w.number, partition := w.partition, tracker := p.tracker, samples := p.samples
    stats := { p.stats with reconnects := link.reconnects } }

/-- The work of a worker from beginning to end. -/
def program (w : Worker) (source : Source) : Program (Link Progress) Report := do
  let ((), link) ← w.work.run { owner := { source } }
  return w.report link

end Worker

end CouchLoad
