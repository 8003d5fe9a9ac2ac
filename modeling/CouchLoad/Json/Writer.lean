import CouchLoad.Decimal.Shortest
import CouchLoad.Json.Basic
import CouchLoad.Text.Numeral

/-!
# Writing JSON

Values are written without blanks and in the order they are stored. Strings escape the quote,
the backslash and the control characters below the space, and nothing else.
-/

namespace CouchLoad.Json

open Text

/-- Doubles are written positionally from five places behind the point up to sixteen digits
before it. -/
def doubleLayout : Decimal.Layout := ⟨-5, 16⟩

/-- The text of a number. Only finite doubles are ever stored. -/
def renderNumber : Number → List Char
  | .whole n => decimalInt n
  | .double bits => (Decimal.renderShortest? doubleLayout bits).getD ['n', 'u', 'l', 'l']

/-- How a character is written inside a string. -/
def renderChar (c : Char) : List Char :=
  if c = '"' then ['\\', '"']
  else if c = '\\' then ['\\', '\\']
  else if c = '\x08' then ['\\', 'b']
  else if c = '\t' then ['\\', 't']
  else if c = '\n' then ['\\', 'n']
  else if c = '\x0c' then ['\\', 'f']
  else if c = '\r' then ['\\', 'r']
  else if c.toNat < 0x20 then ['\\', 'u'] ++ hex 4 c.toNat
  else [c]

/-- A string with its quotes. -/
def renderString (s : List Char) : List Char :=
  '"' :: s.flatMap renderChar ++ ['"']

mutual

/-- The text of a value. -/
def render : Json → List Char
  | .null => ['n', 'u', 'l', 'l']
  | .bool true => ['t', 'r', 'u', 'e']
  | .bool false => ['f', 'a', 'l', 's', 'e']
  | .number n => renderNumber n
  | .string s => renderString s.toList
  | .array [] => ['[', ']']
  | .array (v :: items) => '[' :: render v ++ renderItems items ++ [']']
  | .object [] => ['{', '}']
  | .object ((name, v) :: members) =>
    '{' :: renderString name.toList ++ ':' :: render v ++ renderMembers members ++ ['}']

/-- The items behind the first, each after a comma. -/
def renderItems : List Json → List Char
  | [] => []
  | v :: items => ',' :: render v ++ renderItems items

/-- The members behind the first, each after a comma. -/
def renderMembers : List (String × Json) → List Char
  | [] => []
  | (name, v) :: members =>
    ',' :: renderString name.toList ++ ':' :: render v ++ renderMembers members

end

/-- The text of a value as a string. -/
def toText (v : Json) : String :=
  String.ofList v.render

end CouchLoad.Json
