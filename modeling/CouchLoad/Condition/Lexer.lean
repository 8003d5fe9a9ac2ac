import CouchLoad.Condition.Token
import CouchLoad.Text.Blank
import CouchLoad.Text.Numeral

/-!
# Splitting a condition into tokens

Blanks separate tokens. A name or number is as long as possible, an operator of two characters
wins over one of a single character, and a string ends at the next quote of its own kind.
-/

namespace CouchLoad.Condition

open Text

/-- Why a condition cannot be split into tokens. -/
inductive LexError where
  | integerOutOfRange (digits : List Char)
  | unterminatedString
  | unexpectedCharacter (c : Char)
  deriving DecidableEq, Repr

/-- The wording of the error. -/
def LexError.message : LexError → String
  | .integerOutOfRange digits => s!"integer literal '{String.ofList digits}' out of range"
  | .unterminatedString => "unterminated string literal"
  | .unexpectedCharacter c => s!"unexpected character '{c}'"

/-- The characters a name starts with. -/
def isNameStart (c : Char) : Bool :=
  c.isAlpha || c = '_'

/-- The characters of a name. -/
def isNamePart (c : Char) : Bool :=
  c.isAlphanum || c = '_'

/-- The integer literals lie below this bound. -/
def integerLimit : Nat := 0x8000000000000000

/-- The token that starts with the character `c`, and the rest behind it. -/
def takeToken (c : Char) (s : List Char) : Except LexError (Token × List Char) :=
  if c.isDigit then
    let digits := c :: s.takeWhile Char.isDigit
    let value := natOfDigits digits
    if value < integerLimit then .ok (.int value, s.dropWhile Char.isDigit)
    else .error (.integerOutOfRange digits)
  else if isNameStart c then
    .ok (.name (String.ofList (c :: s.takeWhile isNamePart)), s.dropWhile isNamePart)
  else if c = '"' || c = '\'' then
    match s.dropWhile (· ≠ c) with
    | [] => .error .unterminatedString
    | _ :: rest => .ok (.string (String.ofList (s.takeWhile (· ≠ c))), rest)
  else if c = '(' then .ok (.opening, s)
  else if c = ')' then .ok (.closing, s)
  else
    match s.head?.bind (Operator.ofPair? c), Operator.ofChar? c with
    | some op, _ => .ok (.operator op, s.tail)
    | none, some op => .ok (.operator op, s)
    | none, none => .error (.unexpectedCharacter c)

/-- The tokens of a text. The fuel bounds their number. -/
def lexFrom : Nat → List Char → Except LexError (List Token)
  | 0, _ => .ok []
  | fuel + 1, s =>
    match s.dropWhile isBlank with
    | [] => .ok []
    | c :: s => do
      let (token, rest) ← takeToken c s
      let tokens ← lexFrom fuel rest
      return token :: tokens

/-- The tokens of a condition. -/
def lex (s : List Char) : Except LexError (List Token) :=
  lexFrom s.length s

end CouchLoad.Condition
