import CouchLoad.Pattern.Basic
import CouchLoad.Text.Alphanumeric
import CouchLoad.Text.Blank
import CouchLoad.Text.Numeral

/-!
# Reading patterns

A pattern is read from left to right. Nothing can stand in braces here: neither a number of
repetitions nor the long form of a character, a property or a word edge.

Each step of the reader takes at least one character, so there are no more steps than characters.
-/

namespace CouchLoad.Pattern

open Text

/-- What is left of a pattern, whether blanks in it are left out, and the names of its groups. -/
structure Cursor where
  rest : List Char
  spaced : Bool := false
  names : List (List Char) := []

/-- A part of reading. It fails where the text is no pattern. -/
abbrev Reading := StateT Cursor Option

/-! ### Characters -/

/-- Go on with the given rest. -/
def goOn (rest : List Char) : Reading Unit :=
  modify fun c => { c with rest }

/-- Take the next character, of which there must be one. -/
def next : Reading Char := do
  match (← get).rest with
  | [] => failure
  | c :: rest =>
    goOn rest
    return c

/-- What is left without blanks and comments in front. A comment goes from a number sign to the
end of the line. -/
def withoutBlanks (inComment : Bool) : List Char → List Char
  | [] => []
  | c :: s =>
    if inComment then withoutBlanks (c ≠ '\n') s
    else if isBlank c then withoutBlanks false s
    else if c = '#' then withoutBlanks true s
    else c :: s

/-- Leave blanks out, where they are left out. -/
def skip : Reading Unit := do
  let c ← get
  if c.spaced then goOn (withoutBlanks false c.rest)

/-! ### Escapes -/

/-- A number of so many digits in base sixteen, behind the number `n`. -/
def number (n : Nat) : Nat → Reading Nat
  | 0 => return n
  | digits + 1 => do
    let some digit := hexValue? (← next) | failure
    skip
    number (16 * n + digit) digits

/-- The character whose number follows in so many digits. -/
def numbered (digits : Nat) : Reading Atom := do
  skip
  let n ← number 0 digits
  if n.isValidChar then return .character (Char.ofNat n) (digits = 2) else failure

/-- The control characters that have a letter of their own. -/
def controls : List (Char × Char) :=
  [('a', '\x07'), ('f', '\x0c'), ('t', '\t'), ('n', '\n'), ('r', '\r'), ('v', '\x0b')]

/-- Whether a character stands for itself behind a backslash. -/
def isEscapable (c : Char) : Bool :=
  isNarrow c && !c.isAlphanum && c ≠ '<' && c ≠ '>'

/-- What stands behind a backslash. -/
def escape : Reading Atom := do
  let c ← next
  match c with
  | 'x' => numbered 2
  | 'u' => numbered 4
  | 'U' => numbered 8
  | 'p' | 'P' =>
    skip
    let name ← next
    if name = '\\' || name = '\x7b' then failure
    skip
    return .property
  | _ =>
    if ['d', 's', 'w'].contains c then return .shorthand false
    else if ['D', 'S', 'W'].contains c then return .shorthand true
    else if ['A', 'z'].contains c then return .edge
    else if ['b', 'B', '<', '>'].contains c then return .wordEdge
    else if isEscapable c then return .character c false
    else
      match controls.lookup c with
      | some control => return .character control false
      | none => failure

/-! ### Sets of characters -/

/-- The names of the classes of ASCII characters. -/
def classNames : List String :=
  ["alnum", "alpha", "ascii", "blank", "cntrl", "digit", "graph", "lower", "print", "punct",
    "space", "upper", "word", "xdigit"]

/-- Whether a class that is given by its name is negated, and what follows it, behind the bracket
that opens it. -/
def namedClass? : List Char → Option (Bool × List Char)
  | ':' :: s =>
    let negated := s.head? = some '^'
    let s := if negated then s.tail else s
    match s.dropWhile (· ≠ ':') with
    | ':' :: ']' :: rest =>
      if classNames.contains (String.ofList (s.takeWhile (· ≠ ':'))) then some (negated, rest)
      else none
    | _ => none
  | _ => none

/-- One character or class in a set. -/
def setAtom : Reading Atom := do
  match ← next with
  | '\\' => escape
  | c => return .character c false

/-- The character behind a hyphen that is looked at to tell a range. -/
def ahead? (spaced : Bool) (s : List Char) : Option Char :=
  if !spaced then s.head?
  else
    match s.dropWhile isBlank with
    | '#' :: s => (s.dropWhile isBlank).head?
    | s => s.head?

/-- A member of a set that stands alone. -/
def alone : Atom → Reading Members
  | .edge | .wordEdge => failure
  | a => return .atom a

/-- A range, or a member that stands alone. -/
def rangeOrAtom : Reading Members := do
  let low ← setAtom
  skip
  let c ← get
  match c.rest with
  | '-' :: s =>
    if [some ']', some '-'].contains (ahead? c.spaced s) then alone low
    else
      goOn s
      skip
      match low, ← setAtom with
      | .character low _, .character high _ =>
        if low ≤ high then return .range low high else failure
      | _, _ => failure
  | _ => alone low

/-- Hyphens that stand for themselves in front of the members of a set. -/
def hyphens : Nat → List Members → Reading (List Members)
  | 0, found => return found
  | fuel + 1, found => do
    match (← get).rest with
    | '-' :: s =>
      goOn s
      skip
      hyphens fuel (.atom (.character '-' false) :: found)
    | _ => return found

/-- The start of a set, behind the bracket that opens it: whether it is negated, and the members
that would mean something else further on, the last first. -/
def setStart : Reading (Bool × List Members) := do
  skip
  let negated := (← get).rest.head? = some '^'
  if negated then
    goOn (← get).rest.tail
    skip
  match ← hyphens (← get).rest.length [], (← get).rest with
  | [], ']' :: s =>
    goOn s
    skip
    return (negated, [.atom (.character ']' false)])
  | found, _ => return (negated, found)

/-- The set of what has been found, combined with what is on the left. -/
def combine (left : Option Members) (found : List Members) : Members :=
  let right := Members.ofList found.reverse
  match left with
  | none => right
  | some left => .combined left right

/-- The members of a set up to the bracket that closes it, behind those that have been found. -/
def members : Nat → Option Members → List Members → Reading Members
  | 0, _, _ => failure
  | fuel + 1, left, found => do
    skip
    match (← get).rest with
    | ']' :: s =>
      goOn s
      return combine left found
    | '[' :: s =>
      match namedClass? s with
      | some (negated, s) =>
        goOn s
        members fuel left (.named negated :: found)
      | none =>
        goOn s
        let (negated, first) ← setStart
        let inner ← members fuel none first
        members fuel left (.nested negated inner :: found)
    | '&' :: '&' :: s | '-' :: '-' :: s | '~' :: '~' :: s =>
      goOn s
      members fuel (some (combine left found)) []
    | _ => members fuel left ((← rangeOrAtom) :: found)

/-! ### Groups -/

/-- Whether a character may stand in the name of a group. -/
def isNamePart (c : Char) : Bool :=
  isAlphanumeric c || ['_', '.', '[', ']'].contains c

/-- Whether a text can be the name of a group. -/
def isName : List Char → Bool
  | [] => false
  | c :: s => (isAlphabetic c || c = '_') && s.all isNamePart

/-- The name of a group, which no other group may have. -/
def groupName (s : List Char) : Reading Unit := do
  match s.dropWhile (· ≠ '>') with
  | [] => failure
  | _ :: rest =>
    let name := s.takeWhile (· ≠ '>')
    if isName name && !(← get).names.contains name then
      modify fun c => { c with rest, names := name :: c.names }
    else failure

/-- Modes by their letters, of which those behind a minus sign are switched off; `found` holds
those before them. They end at a colon or a closing parenthesis, which is returned too. -/
def switches? (off dangling : Bool) (found : Switches) :
    List Char → Option (Switches × Char × List Char)
  | [] => none
  | c :: s =>
    if c = ':' || c = ')' then if dangling then none else some (found, c, s)
    else if c = '-' then if off then none else switches? true true found s
    else
      match Mode.ofLetter? c with
      | none => none
      | some mode =>
        if (found.lookup mode).isSome then none
        else switches? off false ((mode, !off) :: found) s

/-- Switch the mode in which blanks are left out. -/
def switchBlanks (switches : Switches) : Reading Unit :=
  modify fun c => { c with spaced := (switches.lookup .spaced).getD c.spaced }

/-- The start of a group, behind the parenthesis that opens it: the modes that are switched, and
whether the group is at its end already. -/
def groupStart : Reading (Switches × Bool) := do
  skip
  match (← get).rest with
  | '?' :: '=' :: _ | '?' :: '!' :: _ | '?' :: '<' :: '=' :: _ | '?' :: '<' :: '!' :: _ => failure
  | '?' :: 'P' :: '<' :: s | '?' :: '<' :: s =>
    groupName s
    return ([], false)
  | '?' :: s =>
    let some (switches, last, rest) := switches? false false [] s | failure
    goOn rest
    if last = ')' && switches.isEmpty then failure
    return (switches, last = ')')
  | _ => return ([], false)

/-! ### Patterns -/

/-- Whether a repetition sign can follow a pattern. -/
def isRepeatable : Pattern → Bool
  | .empty | .switch _ => false
  | _ => true

/-- What stands outside of sets, groups and repetitions. -/
def single : Reading Atom := do
  match ← next with
  | '\\' => escape
  | '.' => return .anyCharacter
  | '^' | '$' => return .edge
  | c => return .character c false

/-- What is left behind a repetition sign, which can have a mark for short repetitions. -/
def behindSign : List Char → List Char
  | '?' :: s => s
  | s => s

/-- A pattern up to the end or to the parenthesis that closes its group, behind the choices and,
after them, the parts that have been found, the last of them first. -/
def body : Nat → List Pattern → List Pattern → Reading Pattern
  | 0, _, _ => failure
  | fuel + 1, choices, found => do
    skip
    match (← get).rest with
    | [] | ')' :: _ => return inChoice (inSequence found.reverse :: choices).reverse
    | '|' :: s =>
      goOn s
      body fuel (inSequence found.reverse :: choices) []
    | '(' :: s =>
      goOn s
      let outer := (← get).spaced
      let (switches, closed) ← groupStart
      switchBlanks switches
      if closed then body fuel choices (.switch switches :: found)
      else
        let inner ← body fuel [] []
        let ')' ← next | failure
        modify fun c => { c with spaced := outer }
        body fuel choices (.group switches inner :: found)
    | '[' :: s =>
      goOn s
      let (negated, first) ← setStart
      let inner ← members fuel none first
      body fuel choices (.set negated inner :: found)
    | '\x7b' :: _ => failure
    | c :: s =>
      if ['?', '*', '+'].contains c then
        match found with
        | [] => failure
        | last :: before =>
          if isRepeatable last then
            goOn (behindSign s)
            body fuel choices (.repeated last :: before)
          else failure
      else body fuel choices (.atom (← single) :: found)

/-- The pattern that a text denotes. -/
def ofText? (s : List Char) : Option Pattern :=
  match (body (s.length + 1) [] []).run { rest := s } with
  | some (p, c) => if c.rest.isEmpty then some p else none
  | none => none

end CouchLoad.Pattern
