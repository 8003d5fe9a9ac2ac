import CouchLoad.Template.Scan

/-!
# Reading templates with a cursor

A text is scanned here by a cursor, which counts the bytes that have been passed, and everything
that is looked at is sliced off the text between two such offsets. A placeholder without a known
name is not passed: the cursor is left at its opening, and the scan goes on behind the brace.
-/

namespace CouchLoad.Template

open Text

/-- What the cursor comes to: a result, an error, or nothing if the text was sliced beside the
boundaries of its characters or if the scan did not come to an end. -/
abbrev Cut := ExceptT Error Option

/-- The text from an offset on. -/
def sliceFrom? (text : List Char) (start : Nat) : Option (List Char) :=
  (splitAtByte? start text).map Prod.snd

/-- The text between two offsets. -/
def slice? (text : List Char) (start stop : Nat) : Option (List Char) :=
  (splitAtByte? stop text).bind fun (before, _) => sliceFrom? before start

/-- What one turn of a scan does: it ends the extent, or puts something in front of what is still
to be read from an offset on. -/
inductive Turn where
  | finish (stop : Nat)
  | go (put : List Segment → List Segment) (extent : Extent) (next : Nat)

/-- A way to read an extent, given where the placeholder around it starts and where the cursor
stands. -/
abbrev Read := Extent → Nat → Nat → Cut (List Segment × Nat)

/-- The head of the placeholder that opens at an offset, and the offset behind it. -/
def headAt? (text : List Char) (start : Nat) : Option (Option (Head × Nat)) := do
  let length := utf8Length ((← sliceFrom? text (start + 2)).takeWhile isNamePart)
  let name ← slice? text (start + 2) (start + 2 + length)
  match ← sliceFrom? text (start + 2 + length) with
  | '}' :: _ =>
    return (Head.simple? name).map fun segment => (.simple segment, start + 2 + length + 1)
  | '(' :: _ =>
    if name = ['i', 'f'] then return some (.condition, start + 2 + length + 1)
    else return (CallKind.ofName? name).map fun kind => (.call kind, start + 2 + length + 1)
  | _ => return none

/-- The placeholder that opens at an offset, and where the cursor is left. -/
def placeholderAt (read : Read) (text : List Char) (start : Nat) :
    Cut (Option Segment × Nat) := do
  match ← headAt? text start with
  | none => return (none, start)
  | some (.simple segment, cursor) => return (some segment, cursor)
  | some (.condition, cursor) =>
    let (source, cursor) ← read (.condition 0) start cursor
    return (some (.condition source), cursor)
  | some (.call kind, cursor) =>
    let (arguments, cursor) ← read .arguments start cursor
    match literalText? arguments with
    | none => return (some (.deferred kind arguments), cursor)
    | some plain =>
      let quoted ← slice? text start cursor
      match Call.ofArguments kind plain with
      | .ok c => return (some (.call c), cursor)
      | .error fault => throw (.invalidPlaceholder quoted fault)

/-- One turn of a scan. -/
def turnAt (read : Read) (text : List Char) (extent : Extent) (start cursor : Nat) : Cut Turn := do
  match ← sliceFrom? text cursor with
  | [] =>
    if extent = .text then return .finish cursor else throw (.unterminatedPlaceholder start)
  | '\\' :: '#' :: _ => return .go (.hash :: ·) extent (cursor + 2)
  | '#' :: '{' :: _ =>
    match ← placeholderAt read text cursor with
    | (some segment, cursor) => return .go (segment :: ·) extent cursor
    | (none, cursor) =>
      return .go (fun more => consChar '#' (consChar '{' more)) extent (cursor + 2)
  | c :: behind =>
    match extent.step c behind with
    | .finish _ => return .finish (cursor + 2)
    | .unbalanced =>
      let quoted ← slice? text start (cursor + 1)
      throw (.invalidPlaceholder quoted .unbalancedParenthesis)
    | .stay extent => return .go (consChar c) extent (cursor + c.utf8Size)

/-- The segments from the cursor to the end of the extent, and where the extent ends. The fuel
bounds the number of turns. -/
def scanAt (text : List Char) : Nat → Read
  | 0, _, _, _ => .mk none
  | fuel + 1, extent, start, cursor => do
    match ← turnAt (scanAt text fuel) text extent start cursor with
    | .finish stop => return ([], stop)
    | .go put extent next =>
      let (segments, stop) ← scanAt text fuel extent start next
      return (put segments, stop)

end CouchLoad.Template
