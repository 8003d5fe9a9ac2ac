import CouchLoad.CommandLine.Reader
import CouchLoad.Load.Run
import CouchLoad.Log.Filter
import CouchLoad.Text.Unprintable

/-!
# The command

The command reads its arguments, loads the configuration, carries the run out and reports what
became of it. It ends with status 0, with status 1 if the run could not be started or was broken
off, with status 2 if the command line is wrong, and with status 101 if the rules about what is to
be shown cannot be taken apart.
-/

namespace CouchLoad

open Entropy

/-- Where a command is carried out. -/
structure Shell (κ : Type) (m : Type → Type) where
  /-- The variables of the environment. -/
  lookup : String → Option String
  /-- Do what a program asks for that needs no connection. -/
  perform : (action : Action) → m action.Answer
  newSource : m Source
  /-- Show the events that a filter admits, and no others, from now on. -/
  select : LogFilter → m Unit
  /-- What carries out a run against some server. -/
  host : Endpoint → Host κ m

/-- How a command ends: its status, and what it leaves on its outputs. -/
structure Exit where
  status : Nat := 0
  output : Option String := none
  error : Option String := none
  deriving DecidableEq, Repr

namespace Command

/-- The name of the program. -/
def programName : String := Component.program.name

/-- What the program does and how it is called. -/
def helpText : String :=
  let settings := Setting.all.map fun s => s!"  {s.display}\n          {s.help}\n"
  let switches := Switch.all.map fun s => s!"  {s.display}\n          {s.describe}\n"
  "Populate CouchDB databases with templated documents for load testing\n\n" ++
    s!"Usage: {programName} [OPTIONS]\n\nOptions:\n" ++ String.join (settings ++ switches)

/-- What is told about a wrong command line. -/
def usageText (e : UsageError) : String :=
  let subject := e.subject?.getD ""
  let what := match e with
    | .unknownArgument _ => s!"unexpected argument '{subject}' found"
    | .invalidValue _ => s!"invalid value for '{subject}'"
    | .missingValue _ => s!"a value is required for '{subject}' but none was supplied"
    | .repeatedSetting _ | .repeatedSwitch _ =>
      s!"the argument '{subject}' cannot be used multiple times"
    | .unexpectedValue _ => s!"unexpected value for '{subject}' found; no more were expected"
    | .helpRequested => "help was asked for"
  s!"error: {what}\n\nUsage: {programName} [OPTIONS]\n\nFor more information, try '--help'."

/-- The end of a command whose command line is wrong. -/
def usageExit : UsageError → Exit
  | .helpRequested => { output := some helpText }
  | e => { status := 2, error := some (usageText e) }

/-- The end of a command that fails: what was being done, and the chain of causes. -/
def failure (what : String) (e : LoadError) : Exit :=
  let chain := what :: e.message :: e.causes
  { status := 1, error := some ("Error: " ++ ": ".intercalate chain) }

/-- The variable of the environment that says which events are shown. -/
def filterVariable : String := "RUST_LOG"

/-- The events that are shown: what the environment says, or else all down to the usual level.
There is no answer if the environment tears a character apart. -/
def logFilter? (lookup : String → Option String) (a : Arguments) : Option LogFilter :=
  let usual := LogFilter.upTo (if a.debug then .debug else .info)
  match (lookup filterVariable).map fun text => LogFilter.ofText text.toList with
  | none => some usual
  | some (.ok filter) => some filter
  | some (.error .unreadable) => some usual
  | some (.error .torn) => none

/-- The end of a command that cannot tell which events to show. -/
def tornExit : Exit :=
  { status := 101, error := some s!"a rule of {filterVariable} tears a character apart" }

/-- What is told before the first request. -/
def opening (c : Config) : String :=
  s!"Populating {c.databases} database(s) at {c.endpoint.baseText} " ++
    s!"with {c.documents} documents each ({c.workers} workers, batch size {c.bulkBatch})"

/-- What is told after the last request. -/
def closing (s : Summary) : String :=
  let totals := s.totals
  s!"Done: {s.databases.length} database(s), {totals.documentWrites} document writes, " ++
    s!"{totals.attachmentWrites} attachments, {totals.conflictWrites} conflicts, " ++
    s!"{totals.failures} failures, {totals.reconnects} reconnects"

/-- What is told about average response times. -/
def averages (s : Summary) : List String :=
  let line (kind : SampleKind) (what : String) : Option String :=
    (s.samples.average? kind).map fun time =>
      s!"CouchDB's average response time for storing {what}: {ResponseTime.display time}"
  (line .document "a document").toList ++ (line .attachment "an attachment").toList

variable {κ : Type} {m : Type → Type} [Monad m]

/-- Take note of what the program itself has to tell. -/
def tell (shell : Shell κ m) : List String → m Unit
  | [] => pure ()
  | message :: rest => do
    shell.perform (.note ⟨.info, .program, message⟩)
    tell shell rest

/-- Carry out a run that has been configured. -/
def execute (shell : Shell κ m) (c : Config) : m Exit := do
  tell shell [opening c]
  match ← Run.execute (shell.host c.endpoint) c with
  | .error e => return failure "Populate run failed" (.store (.transport e))
  | .ok summary =>
    tell shell (closing summary :: if c.times then averages summary else [])
    return {}

/-- Carry the command out. -/
def run (shell : Shell κ m) (words : List String) : m Exit := do
  match CommandLine.read shell.lookup words with
  | .error e => return usageExit e
  | .ok a =>
    match logFilter? shell.lookup a with
    | none => return tornExit
    | some filter =>
      shell.select filter
      let source ← shell.newSource
      match ← (Config.load a source).run shell.perform with
      | .error e =>
        let path := String.ofList (Text.quote a.template.toList)
        return failure s!"Invalid configuration (template {path})" e
      | .ok c => execute shell c

end Command

end CouchLoad
