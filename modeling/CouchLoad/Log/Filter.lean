import CouchLoad.Log.Event
import CouchLoad.Pattern.Reader
import CouchLoad.Text.Split
import CouchLoad.Text.Utf8

/-!
# Selecting events

A filter is a list of rules. A rule admits the events down to some level, either of all
components or of those whose name starts with a given text; of the rules that speak about a
component the one with the longest text decides. A rule can also ask for a span around the event,
which no event here has, or for a field of the event, of which each has only its message.
-/

namespace CouchLoad

/-- A field that a rule asks for. -/
structure LogField where
  name : List Char
  /-- Whether the rule asks for a value too, which only the fields of spans can have. -/
  hasValue : Bool
  deriving DecidableEq, Repr

/-- A rule of a filter. No rank admits nothing. -/
structure LogRule where
  target : Option (List Char)
  span : Option (List Char)
  field : Option LogField
  rank : Nat
  deriving DecidableEq, Repr

/-- Why a text is no filter. -/
inductive LogFault where
  | unreadable
  /-- A part of a rule would start or end inside of a character. -/
  | torn
  deriving DecidableEq, Repr

/-- The rules of a filter, in the order in which they were given. -/
structure LogFilter where
  rules : List LogRule
  deriving DecidableEq, Repr

namespace LogRule

open Text

/-- The rule that admits all events of a rank. -/
def ofRank (rank : Nat) : LogRule :=
  ⟨none, none, none, rank⟩

/-- The rank that a text names: a name or a number, from none to all. -/
def rankOf? (s : List Char) : Option Nat :=
  match parseUnsigned? 64 s with
  | some n => if n ≤ 5 then some n else none
  | none =>
    let lower := s.map Char.toLower
    if lower = "off".toList then some 0
    else (Level.all.find? fun l => l.name.toList.map Char.toLower = lower).map Level.rank

/-- Whether a character may stand in front of the name of a component. -/
def isNameStart (c : Char) : Bool :=
  isAlphanumeric c || c = '-' || c = ':' || c = '_'

/-- Whether a field can have a value that is asked for: a number or a pattern. -/
def isValue (s : List Char) : Bool :=
  isNumeral s || (Pattern.ofText? s).any Pattern.isUsable

/-- The field that a text asks for, by its name or by its name and a value. What follows a second
equals sign is not looked at. -/
def askedField (s : List Char) : Except LogFault LogField :=
  match splitAtEach '=' s with
  | [[]] => .error .unreadable
  | name :: value :: _ => if isValue value then .ok ⟨name, true⟩ else .error .unreadable
  | _ => .ok ⟨s, false⟩

/-- The part of a text between two places, which are given by the numbers of bytes before them. -/
def part (s : List Char) (start stop : Nat) : Except LogFault (List Char) :=
  match (splitAtByte? stop s).bind fun (before, _) => splitAtByte? start before with
  | some (_, part) => .ok part
  | none => .error .torn

/-- The first mark from a place on, where it stands, and what follows it. -/
def mark? (marks : List Char) (place : Nat) : List Char → Option (Nat × Char × List Char)
  | [] => none
  | c :: s => if marks.contains c then some (place, c, s) else mark? marks (place + c.utf8Size) s

/-- The rank that the text from a place on names; all if there is none. -/
def rankFrom (s : List Char) (start : Nat) : Except LogFault Nat := do
  match ← part s start (utf8Length s) with
  | [] => return 5
  | level =>
    match rankOf? level with
    | some rank => return rank
    | none => throw .unreadable

/-- The rank behind a closing bracket, where an equals sign or nothing can follow. -/
def rankBehind (s : List Char) (place : Nat) : List Char → Except LogFault Nat
  | [] => .ok 5
  | '=' :: _ => rankFrom s (place + 1)
  | _ => .error .unreadable

/-- The rest of a rule about spans, behind its opening bracket. -/
def spanRule (s : List Char) (target : Option (List Char)) (place : Nat) (rest : List Char) :
    Except LogFault LogRule := do
  match mark? [']', '\x7b'] place rest with
  | none => throw .unreadable
  | some (stop, ']', rest) =>
    let span ← part s place stop
    return ⟨target, some span, none, ← rankBehind s (stop + 1) rest⟩
  | some (stop, _, rest) =>
    let span ← part s place stop
    match mark? ['\x7d'] (stop + 1) rest with
    | some (close, _, ']' :: rest) =>
      let asked ← askedField (← part s (stop + 1) close)
      let rank ← rankBehind s (close + 2) rest
      return ⟨target, (some span).filter (· ≠ []), some asked, rank⟩
    | some (close, _, _) =>
      let _ ← part s (stop + 1) close
      throw .unreadable
    | none => throw .unreadable

/-- The rule that a text denotes: a level, the start of a name, or both with an equals sign
between them. Behind the name, or in its place, brackets may name a span and in them braces a
field.

Marks are looked for in what is left without the blanks around it, but the parts are cut out of
the whole at the places where the marks were found, so that blanks in front shift them. -/
def ofText (s : List Char) : Except LogFault LogRule := do
  match trim s with
  | [] => throw .unreadable
  | '[' :: rest => spanRule s none 1 rest
  | c :: rest =>
    if !isNameStart c then throw .unreadable
    match mark? ['=', '['] 0 (c :: rest) with
    | some (stop, '=', _) =>
      let target ← part s 0 stop
      return ⟨some target, none, none, ← rankFrom s (stop + 1)⟩
    | some (stop, _, rest) =>
      let target ← part s 0 stop
      spanRule s (some target) (stop + 1) rest
    | none =>
      match rankOf? s with
      | some rank => return ofRank rank
      | none => return ⟨some s, none, none, 5⟩

/-- Whether a rule speaks about the events of a component. -/
def covers (r : LogRule) (c : Component) : Bool :=
  r.span.isNone && (r.target.getD []).isPrefixOf c.name.toList &&
    r.field.all fun f => !f.hasValue && f.name = "message".toList

/-- Whether a rule is at least as special as another one: it gives a longer text, or one that is
as long and asks for no fewer fields. -/
def atLeastAsSpecial (r s : LogRule) : Bool :=
  let length (t : LogRule) : Nat := (t.target.map fun name => name.length + 1).getD 0
  length s < length r || length s = length r && (s.field.isNone || r.field.isSome)

end LogRule

namespace LogFilter

open Text

/-- The filter that admits all events down to a level. -/
def upTo (level : Level) : LogFilter :=
  ⟨[.ofRank level.rank]⟩

/-- The filter that a text denotes: rules with commas between them. Without any rule nothing is
admitted. -/
def ofText (s : List Char) : Except LogFault LogFilter :=
  (((splitAtEach ',' s).filter (· ≠ [])).mapM LogRule.ofText).map (⟨·⟩)

/-- The rule that decides about a component: the most special one, and of two that are alike the
later one. -/
def rule? (f : LogFilter) (c : Component) : Option LogRule :=
  (f.rules.filter (·.covers c)).foldl (fun best r =>
    match best with
    | none => some r
    | some b => if r.atLeastAsSpecial b then some r else some b) none

/-- Whether an event is admitted. -/
def admits (f : LogFilter) (e : Event) : Bool :=
  match f.rule? e.component with
  | some r => e.level.rank ≤ r.rank
  | none => false

end LogFilter

end CouchLoad
