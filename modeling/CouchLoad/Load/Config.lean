import CouchLoad.CommandLine.Arguments
import CouchLoad.Couch.Error
import CouchLoad.Http.Exchange
import CouchLoad.Program.Basic
import CouchLoad.Template.Basic
import CouchLoad.Url.Basic

/-!
# Configurations

Everything a run needs to know. It is checked once, before the first request, and does not change
during the run.
-/

namespace CouchLoad

/-- Where the server is, and how to ask it. -/
structure Endpoint where
  host : String := "localhost"
  port : Nat := 5984
  username : Option String := none
  password : Option String := none
  /-- The time for one request, in seconds. -/
  timeout : Nat := 60
  deriving DecidableEq, Repr

/-- The text of the address of the server. -/
def Endpoint.baseText (e : Endpoint) : String :=
  Url.serverText e.host e.port

/-- The URL of the server. -/
def Endpoint.url (e : Endpoint) : Except TransportError Url :=
  (Url.ofServer e.host e.port).mapError fun fault => .invalidUrl e.baseText fault.message

/-- The credentials that go with every request. -/
def Endpoint.credentials (e : Endpoint) : Option Http.Credentials :=
  e.username.map fun username => ⟨username, e.password⟩

/-- What a run needs to know. -/
structure Config where
  endpoint : Endpoint := {}
  databases : UInt64 := 1
  firstDatabase : UInt64 := 1
  dbPrefix : String := "testdb"
  documents : UInt64 := 100
  firstCounter : UInt64 := 1
  userPrefix : String := "user"
  bulkBatch : Nat := 1
  revisions : Nat := 1
  conflicts : Nat := 0
  workers : Nat := 1
  template : Template
  security : Option Json := none
  recreate : Bool := false
  times : Bool := false

/-- Which combinations of settings make no sense. -/
inductive ConfigFault where
  | usernameWithoutPassword
  | noWorkers
  | emptyBatches
  | noRevisions
  | conflictsWithoutBatches
  | noTimeout
  deriving DecidableEq, Repr

/-- The wording of the fault. -/
def ConfigFault.message : ConfigFault → String
  | .usernameWithoutPassword => "--http-basic-username requires --http-basic-password"
  | .noWorkers => "--threads must be at least 1"
  | .emptyBatches => "--bulk-batch must be at least 1"
  | .noRevisions => "--revs-per-doc must be at least 1"
  | .conflictsWithoutBatches => "--conflicts-per-doc requires --bulk-batch greater than 1"
  | .noTimeout => "--request-timeout-secs must be at least 1"

/-- Why a run does not start or does not end. -/
inductive LoadError where
  | config (fault : ConfigFault)
  | template (e : Template.Error)
  | store (e : StoreError)
  | unreadable (path : String) (fault : FileFault)
  | invalidSecurity (path : String) (e : Json.ReadError)
  deriving DecidableEq

namespace LoadError

/-- The wording of the error, without what stands behind it. -/
def summary : LoadError → String
  | .config fault => s!"Configuration error: {fault.message}"
  | .template e => s!"Template error: {e.message}"
  | .store e => s!"CouchDB error: {e.message}"
  | .unreadable path _ => s!"Couldn't read '{path}'"
  | .invalidSecurity path _ => s!"Invalid security object in '{path}'"

/-- The wordings of what stands behind the error, the nearest first. -/
def causes : LoadError → List String
  | .config _ => []
  | .template e => e.message :: (e.cause?.map Template.Cause.message).toList
  | .store e => e.message :: match e with
    | .transport (.http _ reason) => [reason]
    | .transport (.file _ fault) => [fault.message]
    | _ => []
  | .unreadable _ fault => [fault.message]
  | .invalidSecurity _ e => [e.message]

/-- The whole wording of the error. -/
def message (e : LoadError) : String :=
  match e with
  | .unreadable _ fault => e.summary ++ ": " ++ fault.message
  | .invalidSecurity _ cause => e.summary ++ ": " ++ cause.message
  | _ => e.summary

end LoadError

/-- Generate the document of a context. The files behind attachments are asked for once it is known
which ones the document refers to. -/
def Template.generate (t : Template) (ctx : Context) (mode : AttachmentMode) (s : Entropy.Source) :
    Program Unit (Except Template.Error Document × Entropy.Source) :=
  let (value, s) := t.value ctx s
  let (fresh, s) := Entropy.Uuid.draw s
  match value with
  | .error e => .done (.error e, s)
  | .ok v => do
    let files ← Program.readFiles () (if mode = .eager then Attachment.referencedFiles v else [])
    return (Document.ofJson mode files fresh v, s)

namespace Config

open Entropy

/-- Whether documents are written many at once. -/
def usesBulk (c : Config) : Bool :=
  c.bulkBatch > 1

/-- Documents that are written many at once hold their attachments; else these are uploaded
later. -/
def attachmentMode (c : Config) : AttachmentMode :=
  if c.usesBulk then .eager else .lazy

/-- The context of the document of a counter. -/
def context (c : Config) (counter : Nat) : Context :=
  ⟨counter, c.dbPrefix, c.userPrefix⟩

/-- The number of the database at a place. Numbers are words: behind the greatest comes zero. -/
def databaseNumber (c : Config) (place : Nat) : UInt64 :=
  c.firstDatabase + place.toUInt64

/-- The names of the databases, in their order. A single database has no number. -/
def databaseNames (c : Config) : List String :=
  if c.databases = 1 then [c.dbPrefix]
  else (List.range c.databases.toNat).map fun place =>
    c.dbPrefix ++ toString (c.databaseNumber place)

/-- The first fault of a configuration. -/
def fault? (c : Config) : Option ConfigFault :=
  if c.endpoint.username.isSome && c.endpoint.password.isNone then some .usernameWithoutPassword
  else if c.workers = 0 then some .noWorkers
  else if c.bulkBatch = 0 then some .emptyBatches
  else if c.revisions = 0 then some .noRevisions
  else if c.conflicts > 0 && !c.usesBulk then some .conflictsWithoutBatches
  else if c.endpoint.timeout = 0 then some .noTimeout
  else none

/-- Accept a configuration without faults. -/
def validate (c : Config) : Except LoadError Unit :=
  match c.fault? with
  | some fault => .error (.config fault)
  | none => .ok ()

/-- Generate the first document for trial, so that a bad template shows before the first
request. -/
def tryTemplate (c : Config) (s : Source) : Program Unit (Except LoadError Unit) := do
  match ← c.template.generate (c.context c.firstCounter.toNat) c.attachmentMode s with
  | (.ok _, _) => return .ok ()
  | (.error e, _) => return .error (.template e)

/-- The configuration of a run with these arguments. -/
def ofArguments (a : Arguments) (template : Template) (security : Option Json) : Config :=
  { endpoint := {
      host := a.host, port := a.port, username := a.username, password := a.password
      timeout := a.timeout }
    databases := a.databases, firstDatabase := a.firstDatabase, dbPrefix := a.dbPrefix
    documents := a.documents, firstCounter := a.firstCounter, userPrefix := a.userPrefix
    bulkBatch := a.bulkBatch, revisions := a.revisions, conflicts := a.conflicts
    workers := a.workers, template, security, recreate := a.recreate, times := a.times }

/-- Read the template. -/
def loadTemplate (path : String) : Program Unit (Except LoadError Template) := do
  let bytes ← Program.readFile () path
  return (Template.ofFile (fun _ => bytes) path).mapError .template

/-- Read the security object. -/
def loadSecurity (path : String) : Program Unit (Except LoadError Json) := do
  let bytes ← Program.readFile () path
  match Files.readText (fun _ => bytes) path with
  | .error fault => return .error (.unreadable path fault)
  | .ok text => return (Json.parse text).mapError (.invalidSecurity path)

/-- Read the template and the security object, and check the whole. -/
def load (a : Arguments) (s : Source) : Program Unit (Except LoadError Config) :=
  ExceptT.run do
    let template ← ExceptT.mk (loadTemplate a.template)
    let security ← a.security.mapM fun path => ExceptT.mk (loadSecurity path)
    let config := ofArguments a template security
    ExceptT.mk (.done config.validate)
    ExceptT.mk (config.tryTemplate s)
    return config

end Config

end CouchLoad
