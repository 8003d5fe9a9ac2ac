import CouchLoad.Condition.Lexer
import CouchLoad.Context

/-!
# Conditions as they are written

The text of a condition consists of its tokens, with blanks in front of them and behind the last
one. One token can be written in several ways: a number with zeros in front of it, a string in
quotes of either kind.
-/

namespace CouchLoad.Condition

open Text

/-- A token as it stands in a text, with the blanks in front of it. -/
structure Lexeme where
  blanks : List Char
  written : List Char
  token : Token
  deriving DecidableEq, Repr

/-- The text of lexemes in a row. -/
def Lexeme.textOf (lexemes : List Lexeme) : List Char :=
  lexemes.flatMap fun l => l.blanks ++ l.written

/-- The lexemes of a text, and the blanks behind them. The fuel bounds their number. -/
def lexemesFrom : Nat → List Char → Except LexError (List Lexeme × List Char)
  | 0, s => .ok ([], s)
  | fuel + 1, s =>
    match s.dropWhile isBlank with
    | [] => .ok ([], s)
    | c :: rest => do
      let (token, behind) ← takeToken c rest
      let (more, tail) ← lexemesFrom fuel behind
      let written := c :: rest.take (rest.length - behind.length)
      return (⟨s.takeWhile isBlank, written, token⟩ :: more, tail)

/-- The lexemes of a condition, and the blanks behind them. -/
def lexemes (s : List Char) : Except LexError (List Lexeme × List Char) :=
  lexemesFrom s.length s

/-- The ways to write a token. -/
inductive Token.Written : Token → List Char → Prop where
  | int {c : Char} {s : List Char} (hdigits : ∀ d ∈ c :: s, d.isDigit)
      (hlimit : natOfDigits (c :: s) < integerLimit) :
      Token.Written (.int (natOfDigits (c :: s))) (c :: s)
  | name {c : Char} {s : List Char} (hstart : isNameStart c) (hparts : ∀ d ∈ s, isNamePart d) :
      Token.Written (.name (String.ofList (c :: s))) (c :: s)
  | string {quote : Char} {s : List Char} (hquote : quote = '"' ∨ quote = '\'')
      (hinside : quote ∉ s) : Token.Written (.string (String.ofList s)) (quote :: (s ++ [quote]))
  | operator (op : Operator) : Token.Written (.operator op) op.symbol.toList
  | opening : Token.Written .opening ['(']
  | closing : Token.Written .closing [')']

/-- Whether a character behind a token would make a longer token of it. -/
def Token.continues : Token → Char → Bool
  | .int _, c => c.isDigit
  | .name _, c => isNamePart c
  | .operator op, c => op ∈ [.lt, .gt, .not] && c = '='
  | _, _ => false

/-- Lexemes in a row with blanks behind them, each of them as long as it can be. -/
inductive Layout : List Lexeme → List Char → Prop where
  | nil {tail : List Char} (h : ∀ c ∈ tail, isBlank c) : Layout [] tail
  | cons {l : Lexeme} {more : List Lexeme} {tail : List Char} (hblanks : ∀ c ∈ l.blanks, isBlank c)
      (hwritten : l.token.Written l.written)
      (hend : ∀ c ∈ (Lexeme.textOf more ++ tail).head?, l.token.continues c = false)
      (hmore : Layout more tail) : Layout (l :: more) tail

/-- Lexemes in a row in front of a text, each of them as long as it can be. -/
inductive Row : List Lexeme → List Char → Prop where
  | nil (rest : List Char) : Row [] rest
  | cons {l : Lexeme} {more : List Lexeme} {rest : List Char} (hblanks : ∀ c ∈ l.blanks, isBlank c)
      (hwritten : l.token.Written l.written)
      (hend : ∀ c ∈ (Lexeme.textOf more ++ rest).head?, l.token.continues c = false)
      (hmore : Row more rest) : Row (l :: more) rest

/-- Where an error arises: the character there, and the text behind it. -/
inductive LexError.Arises : LexError → Char → List Char → Prop where
  | integer {c : Char} {digits rest : List Char} (hdigits : ∀ d ∈ c :: digits, d.isDigit)
      (hend : ∀ d ∈ rest.head?, d.isDigit = false)
      (hlimit : integerLimit ≤ natOfDigits (c :: digits)) :
      LexError.Arises (.integerOutOfRange (c :: digits)) c (digits ++ rest)
  | string {quote : Char} {rest : List Char} (hquote : quote = '"' ∨ quote = '\'')
      (hopen : quote ∉ rest) : LexError.Arises .unterminatedString quote rest
  /-- No token stands there, and no string begins there. -/
  | character {c : Char} {rest : List Char} (hquote : c ≠ '"' ∧ c ≠ '\'')
      (hnone : ∀ (token : Token) (s : List Char), token.Written s → ¬s <+: c :: rest) :
      LexError.Arises (.unexpectedCharacter c) c rest

/-! ### Printing -/

/-- A token in print. A string stands in the given quote. -/
def Token.print (quote : Char) : Token → List Char
  | .int value => decimal value
  | .string text => quote :: (text.toList ++ [quote])
  | .name text => text.toList
  | .operator op => op.symbol.toList
  | .opening => ['(']
  | .closing => [')']

/-- The tokens that can be printed with the given quote: numbers below the limit, names, strings
that do not contain the quote, and everything else. -/
def Token.PrintsIn (quote : Char) : Token → Prop
  | .int value => value < integerLimit
  | .string text => (quote = '"' ∨ quote = '\'') ∧ quote ∉ text.toList
  | .name text => ∃ c s, text.toList = c :: s ∧ isNameStart c ∧ ∀ d ∈ s, isNamePart d
  | .operator _ | .opening | .closing => True

/-- Lexemes that blanks keep apart, with blanks behind the last one. -/
structure Lexeme.Spaced (lexemes : List Lexeme) (tail : List Char) : Prop where
  blanks : ∀ l ∈ lexemes, ∀ c ∈ l.blanks, isBlank c
  apart : ∀ l ∈ lexemes.tail, l.blanks ≠ []
  behind : ∀ c ∈ tail, isBlank c

/-! ### Replacing -/

/-- Lexemes with another text in the place of the name of the counter, where its place is chosen. -/
def Lexeme.replaceCounter (value : List Char) (chosen : Nat → Bool) (lexemes : List Lexeme) :
    List Lexeme :=
  lexemes.mapIdx fun place l =>
    if chosen place ∧ l.token = .name Reference.counter.name then { l with written := value }
    else l

/-- A condition with another text in the place of the name of the counter, where its place among the
tokens is chosen. -/
def replaceCounter (value : List Char) (chosen : Nat → Bool) (s : List Char) : List Char :=
  match lexemes s with
  | .ok (ls, tail) => Lexeme.textOf (Lexeme.replaceCounter value chosen ls) ++ tail
  | .error _ => s

/-- The string literals among the tokens of a condition. -/
def stringLiterals (s : List Char) : List String :=
  match lex s with
  | .ok tokens => tokens.filterMap fun
    | .string text => some text
    | _ => none
  | .error _ => []

end CouchLoad.Condition
