import CouchLoad.Template.Segment
import CouchLoad.Text.Utf8

/-!
# Reading templates

A text is scanned once from left to right. A backslash before a hash sign escapes it, and a hash
sign before a brace opens a placeholder if a known name follows; any other text stands for
itself. The arguments of a call end at the first `)}` that belongs to no placeholder inside them,
and a condition ends at the parenthesis that balances its opening one.
-/

namespace CouchLoad.Template

open Text

/-- What a placeholder is, as far as its name tells. -/
inductive Head where
  | simple (segment : Segment)
  | call (kind : CallKind)
  | condition

/-- The characters of a placeholder's name. -/
def isNamePart (c : Char) : Bool :=
  c.isLower || c = '_'

/-- The placeholder without arguments of a given name. -/
def Head.simple? (name : List Char) : Option Segment :=
  if name = CallKind.randomString.name.toList then some (.call (.randomString none))
  else (Reference.ofName? name).map .reference

/-- The head of a placeholder, read behind its opening brace, and the text behind it. -/
def Head.take? (s : List Char) : Option (Head × List Char) :=
  let name := s.takeWhile isNamePart
  match s.dropWhile isNamePart with
  | '}' :: rest => (Head.simple? name).map fun segment => (.simple segment, rest)
  | '(' :: rest =>
    if name = ['i', 'f'] then some (.condition, rest)
    else (CallKind.ofName? name).map fun kind => (.call kind, rest)
  | _ => none

/-- What is being scanned: the whole text, the arguments of a call, or a condition in which some
parentheses are open. -/
inductive Extent where
  | text
  | arguments
  | condition (depth : Nat)
  deriving DecidableEq, Repr

/-- What a character of plain text does to the scan. -/
inductive Step where
  | finish (rest : List Char)
  | stay (extent : Extent)
  | unbalanced

/-- The step at the character `c` in front of `rest`. -/
def Extent.step (extent : Extent) (c : Char) (rest : List Char) : Step :=
  match extent with
  | .text => .stay .text
  | .arguments =>
    match c, rest with
    | ')', '}' :: rest => .finish rest
    | _, _ => .stay .arguments
  | .condition depth =>
    if c = '(' then .stay (.condition (depth + 1))
    else if c = ')' then
      match depth, rest with
      | depth + 1, _ => .stay (.condition depth)
      | 0, '}' :: rest => .finish rest
      | 0, _ => .unbalanced
    else .stay (.condition depth)

/-- A fault of the scan; a placeholder is named by the text from its opening on. -/
inductive ScanFault where
  | unterminated (opening : List Char)
  | invalid (opening rest : List Char) (fault : CallFault)
  deriving DecidableEq, Repr

/-- Put a character in front of segments; text that is next to each other is one segment. -/
def consChar (c : Char) : List Segment → List Segment
  | .literal text :: rest => .literal (c :: text) :: rest
  | segments => .literal [c] :: segments

/-- The segments up to the end of the extent, and the text behind it. The fuel counts the
characters left. -/
def scan : Nat → Extent → List Char → List Char → Except ScanFault (List Segment × List Char)
  | 0, _, opening, _ => .error (.unterminated opening)
  | fuel + 1, extent, opening, s =>
    match s with
    | [] => if extent = .text then .ok ([], []) else .error (.unterminated opening)
    | '\\' :: '#' :: rest => do
      let (segments, rest) ← scan fuel extent opening rest
      return (.hash :: segments, rest)
    | '#' :: '{' :: inner =>
      match Head.take? inner with
      | none => do
        let (segments, rest) ← scan fuel extent opening inner
        return (consChar '#' (consChar '{' segments), rest)
      | some (.simple segment, rest) => do
        let (segments, rest) ← scan fuel extent opening rest
        return (segment :: segments, rest)
      | some (.condition, inner) => do
        let (source, rest) ← scan fuel (.condition 0) s inner
        let (segments, rest) ← scan fuel extent opening rest
        return (.condition source :: segments, rest)
      | some (.call kind, inner) => do
        let (arguments, rest) ← scan fuel .arguments s inner
        let segment ← match literalText? arguments with
          | none => pure (.deferred kind arguments)
          | some text =>
            match Call.ofArguments kind text with
            | .ok call => pure (.call call)
            | .error fault => throw (.invalid s rest fault)
        let (segments, rest) ← scan fuel extent opening rest
        return (segment :: segments, rest)
    | c :: rest =>
      match extent.step c rest with
      | .finish rest => .ok ([], rest)
      | .unbalanced => .error (.invalid opening rest .unbalancedParenthesis)
      | .stay extent => do
        let (segments, rest) ← scan fuel extent opening rest
        return (consChar c segments, rest)

/-- The error that a fault in the given text is: offsets count bytes, and a placeholder is quoted
as far as it was read. -/
def ScanFault.error (text : List Char) : ScanFault → Error
  | .unterminated opening => .unterminatedPlaceholder (utf8Length text - utf8Length opening)
  | .invalid opening rest fault =>
    .invalidPlaceholder (opening.take (opening.length - rest.length)) fault

/-- The segments of a text. -/
def tokenize (text : List Char) : Except Error (List Segment) :=
  match scan (text.length + 1) .text text text with
  | .ok (segments, _) => .ok segments
  | .error fault => .error (fault.error text)

end CouchLoad.Template
