import CouchLoad.CommandLine.Arguments
import CouchLoad.Text.Split

/-!
# Reading a command line

Words are read from left to right. The value of a setting stands behind an equals sign or is the
next word; in the latter case it is judged only when the next setting or switch, or the end, is
reached. A word that is out of place is reported at once.
-/

namespace CouchLoad

/-- What is wrong with a command line. -/
inductive UsageError where
  | unknownArgument (word : String)
  | invalidValue (setting : Setting)
  | missingValue (setting : Setting)
  | repeatedSetting (setting : Setting)
  | repeatedSwitch (switch : Switch)
  | unexpectedValue (switch : Switch)
  | helpRequested
  deriving DecidableEq, Repr

/-- The setting or switch that the error is about, as messages show it. -/
def UsageError.subject? : UsageError → Option String
  | .unknownArgument word => some word
  | .invalidValue setting | .missingValue setting | .repeatedSetting setting =>
    some setting.display
  | .repeatedSwitch switch | .unexpectedValue switch => some switch.display
  | .helpRequested => none

namespace CommandLine

open Text

/-- A word that starts with a hyphen. -/
inductive Word where
  /-- Two hyphens, a name and perhaps a value behind an equals sign. -/
  | long (name : String) (value : Option String)
  /-- One hyphen; only the first letter behind it counts. -/
  | short (letter : Char)
  | plain
  deriving DecidableEq, Repr

/-- The kind of a word. A lone hyphen is plain. -/
def Word.of (word : List Char) : Word :=
  match word with
  | '-' :: '-' :: rest =>
    match splitAtFirst? '=' rest with
    | some (name, value) => .long (String.ofList name) (some (String.ofList value))
    | none => .long (String.ofList rest) none
  | '-' :: letter :: _ => .short letter
  | _ => .plain

/-- A setting whose value may still come. -/
structure Pending where
  setting : Setting
  value : Option String
  deriving DecidableEq, Repr

/-- What has been read. -/
structure Reading where
  arguments : Arguments := {}
  settings : List Setting := []
  switches : List Switch := []
  pending : Option Pending := none
  deriving DecidableEq, Repr

namespace Reading

/-- Give a setting its value. -/
def assign (r : Reading) (setting : Setting) (value : String) : Except UsageError Reading :=
  if r.settings.contains setting then .error (.repeatedSetting setting)
  else
    match r.arguments.set value setting with
    | .ok arguments => .ok { r with arguments, settings := setting :: r.settings }
    | .error .empty => .error (.missingValue setting)
    | .error .invalid => .error (.invalidValue setting)

/-- Judge the pending setting. -/
def settle (r : Reading) : Except UsageError Reading :=
  match r.pending with
  | none => .ok r
  | some ⟨setting, none⟩ => .error (.missingValue setting)
  | some ⟨setting, some value⟩ => { r with pending := none }.assign setting value

/-- Turn a switch on. -/
def turnOn (r : Reading) (switch : Switch) : Except UsageError Reading :=
  if switch = .help then .error .helpRequested
  else if r.switches.contains switch then .error (.repeatedSwitch switch)
  else .ok { r with
    arguments := r.arguments.turnOn switch
    switches := switch :: r.switches }

/-- Read a word with two hyphens. -/
def long (r : Reading) (name : String) (value : Option String) : Except UsageError Reading :=
  match Setting.all.find? (·.name = name), Switch.all.find? (·.name = name) with
  | some setting, _ => do
    let r ← r.settle
    match value with
    | some value => r.assign setting value
    | none => .ok { r with pending := some ⟨setting, none⟩ }
  | none, some switch => do
    if value.isSome then throw (.unexpectedValue switch)
    (← r.settle).turnOn switch
  | none, none => .error (.unknownArgument ("--" ++ name))

/-- Read a word with one hyphen. -/
def short (r : Reading) (letter : Char) : Except UsageError Reading :=
  if letter = 'h' then do (← r.settle).turnOn .help
  else .error (.unknownArgument (String.ofList ['-', letter]))

/-- Read a plain word, which must be a value that has been waited for. -/
def plain (r : Reading) (word : String) : Except UsageError Reading :=
  match r.pending with
  | some ⟨setting, none⟩ => .ok { r with pending := some ⟨setting, some word⟩ }
  | _ => .error (.unknownArgument word)

/-- Read words up to the end or up to two lone hyphens, behind which no word may stand. -/
def words (r : Reading) : List String → Except UsageError Reading
  | [] => r.settle
  | "--" :: [] => r.settle
  | "--" :: word :: _ => .error (.unknownArgument word)
  | word :: rest => do
    let r ← match Word.of word.toList with
      | .long name value => r.long name value
      | .short letter => r.short letter
      | .plain => r.plain word
    r.words rest

/-- Take from the environment what the command line does not give. -/
def environment (r : Reading) (lookup : String → Option String) :
    List Setting → Except UsageError Reading
  | [] => .ok r
  | setting :: rest => do
    let value := setting.envName?.bind lookup
    let r ← match value with
      | some value => if r.settings.contains setting then .ok r else r.assign setting value
      | none => .ok r
    r.environment lookup rest

end Reading

/-- The arguments of a run. -/
def read (lookup : String → Option String) (words : List String) :
    Except UsageError Arguments := do
  let r ← ({} : Reading).words words
  let r ← r.environment lookup Setting.all
  return r.arguments

end CommandLine

end CouchLoad
