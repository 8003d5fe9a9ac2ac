import CouchLoad.Context
import CouchLoad.Template.Error
import CouchLoad.Text.Blank
import CouchLoad.Text.Split

/-!
# Segments

A template is a list of segments: literal text, escaped hash signs and placeholders. The
arguments of a call may hold placeholders themselves; such a call is deferred and read anew for
every document, once the text of its arguments is known.
-/

namespace CouchLoad.Template

open Text

/-- The placeholders that take arguments, conditions apart. -/
inductive CallKind where
  | randomInt
  | randomString
  | pick
  | file
  deriving DecidableEq, Repr

/-- The name of a kind of call. -/
def CallKind.name : CallKind → String
  | .randomInt => "random_int"
  | .randomString => "random_string"
  | .pick => "pick"
  | .file => "file"

/-- The kind of call with a given name. -/
def CallKind.ofName? (name : List Char) : Option CallKind :=
  [randomInt, randomString, pick, file].find? fun k => k.name.toList = name

/-- A call whose arguments are known. -/
inductive Call where
  /-- An integer from `low` to `high`. -/
  | randomInt (low high : Int)
  /-- Letters and digits, as many as said or of a random number. -/
  | randomString (length : Option Nat)
  /-- One of several texts. -/
  | pick (options : List (List Char))
  /-- The contents of a file, left as a mark in the resolved text. -/
  | file (path : List Char)
  deriving DecidableEq, Repr

/-- A bound of a range of integers. -/
def parseBound (text : List Char) : Except CallFault Int :=
  match parseSigned? 64 text with
  | some n => .ok n
  | none => .error (.notAnInteger text)

/-- The call of a kind with the given text of arguments. -/
def Call.ofArguments (kind : CallKind) (arguments : List Char) : Except CallFault Call :=
  match kind with
  | .randomInt =>
    match (splitAtEach ',' arguments).map trim with
    | [low, high] => do
      let low ← parseBound low
      let high ← parseBound high
      if low > high then throw .boundsOutOfOrder
      return .randomInt low high
    | _ => .error .expectedTwoBounds
  | .randomString =>
    match parseUnsigned? 64 (trim arguments) with
    | some length => .ok (.randomString (some length))
    | none => .error .expectedLength
  | .pick => .ok (.pick ((splitAtEach ',' arguments).map trim))
  | .file =>
    let path := trim arguments
    if path.isEmpty then .error .missingPath else .ok (.file path)

/-- A span of a template. -/
inductive Segment where
  /-- Text that stands for itself. -/
  | literal (text : List Char)
  /-- A hash sign that was escaped by a backslash. -/
  | hash
  /-- A value of the context. -/
  | reference (r : Reference)
  /-- A call with known arguments. -/
  | call (c : Call)
  /-- A call whose arguments hold placeholders. -/
  | deferred (kind : CallKind) (arguments : List Segment)
  /-- The condition of a field, left as a mark in the resolved text. -/
  | condition (source : List Segment)
  deriving Repr

/-- The text of segments that hold no placeholder. -/
def literalText? : List Segment → Option (List Char)
  | [] => some []
  | .literal text :: rest => (literalText? rest).map (text ++ ·)
  | .hash :: rest => (literalText? rest).map ('#' :: ·)
  | _ => none

end CouchLoad.Template
