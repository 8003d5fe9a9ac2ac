import CouchLoad.Json.Numeral

/-!
# Reading JSON

The grammar is that of RFC 8259 without extensions. Arrays and objects may be nested up to a
limit, and the recursion of the reader follows the levels that are left. A repeated member keeps
its first place and takes its last value.
-/

namespace CouchLoad.Json

open Text

/-- Drop the blanks that may stand between tokens. -/
def skipBlanks (s : List Char) : List Char :=
  s.dropWhile fun c => c = ' ' || c = '\t' || c = '\n' || c = '\r'

/-- The value of a hexadecimal digit. -/
def hexDigit? (c : Char) : Option Nat :=
  if c.isDigit then some (c.toNat - '0'.toNat)
  else if 'a' ≤ c && c ≤ 'f' then some (c.toNat - 'a'.toNat + 10)
  else if 'A' ≤ c && c ≤ 'F' then some (c.toNat - 'A'.toNat + 10)
  else none

/-- The unit that four hexadecimal digits denote. -/
def hexUnit? (a b c d : Char) : Option Nat := do
  let high := (← hexDigit? a) * 16 + (← hexDigit? b)
  let low := (← hexDigit? c) * 16 + (← hexDigit? d)
  return high * 256 + low

/-- The character of an escape with one letter. -/
def shortEscape? : Char → Option Char
  | '"' => some '"'
  | '\\' => some '\\'
  | '/' => some '/'
  | 'b' => some '\x08'
  | 'f' => some '\x0c'
  | 'n' => some '\n'
  | 'r' => some '\r'
  | 't' => some '\t'
  | _ => none

/-- The rest of a string behind its opening quote. Two escapes that form a surrogate pair denote
one character. -/
def readString : List Char → Except ReadError (List Char × List Char)
  | [] => .error .unexpectedEnd
  | '"' :: rest => .ok ([], rest)
  | '\\' :: 'u' :: a :: b :: c :: d :: rest =>
    match hexUnit? a b c d with
    | none => .error .invalidEscape
    | some unit =>
      if unit < 0xd800 || 0xdfff < unit then
        (readString rest).map fun (s, rest) => (Char.ofNat unit :: s, rest)
      else if 0xdbff < unit then .error .loneSurrogate
      else
        match rest with
        | '\\' :: 'u' :: e :: f :: g :: h :: rest =>
          match hexUnit? e f g h with
          | none => .error .invalidEscape
          | some low =>
            if low < 0xdc00 || 0xdfff < low then .error .loneSurrogate
            else
              let code := 0x10000 + (unit - 0xd800) * 0x400 + (low - 0xdc00)
              (readString rest).map fun (s, rest) => (Char.ofNat code :: s, rest)
        | _ => .error .loneSurrogate
  | '\\' :: c :: rest =>
    match shortEscape? c with
    | none => .error .invalidEscape
    | some escaped => (readString rest).map fun (s, rest) => (escaped :: s, rest)
  | c :: rest =>
    if c.toNat < 0x20 then .error .controlCharacter
    else if c = '\\' then .error .unexpectedEnd
    else (readString rest).map fun (s, rest) => (c :: s, rest)

/-- A comma and another item, again and again, up to the closing mark. The fuel counts the
characters left. -/
def readMore {α : Type} (closing : Char)
    (item : List Char → Except ReadError (α × List Char)) :
    Nat → List Char → Except ReadError (List α × List Char)
  | 0, _ => .error .unexpectedEnd
  | fuel + 1, s =>
    match skipBlanks s with
    | [] => .error .unexpectedEnd
    | c :: rest =>
      if c = closing then .ok ([], rest)
      else if c = ',' then do
        let (x, rest) ← item rest
        let (xs, rest) ← readMore closing item fuel rest
        return (x :: xs, rest)
      else .error (.unexpectedCharacter c)

/-- The items of an array or object behind its opening mark. -/
def readItems {α : Type} (closing : Char)
    (item : List Char → Except ReadError (α × List Char)) (s : List Char) :
    Except ReadError (List α × List Char) :=
  match skipBlanks s with
  | [] => .error .unexpectedEnd
  | c :: rest =>
    if c = closing then .ok ([], rest)
    else do
      let (x, rest) ← item s
      let (xs, rest) ← readMore closing item rest.length rest
      return (x :: xs, rest)

/-- A member of an object: its name, a colon and its value. -/
def readMember {α : Type} (value : List Char → Except ReadError (α × List Char)) (s : List Char) :
    Except ReadError ((String × α) × List Char) :=
  match skipBlanks s with
  | [] => .error .unexpectedEnd
  | '"' :: rest => do
    let (name, rest) ← readString rest
    match skipBlanks rest with
    | [] => throw .unexpectedEnd
    | ':' :: rest =>
      let (v, rest) ← value rest
      return ((String.ofList name, v), rest)
    | c :: _ => throw (.unexpectedCharacter c)
  | c :: _ => .error (.unexpectedCharacter c)

/-- The literals of the grammar. -/
def literals : List (List Char × Json) :=
  [(['n', 'u', 'l', 'l'], .null), (['t', 'r', 'u', 'e'], .bool true),
    (['f', 'a', 'l', 's', 'e'], .bool false)]

/-- A value that is neither a string, an array nor an object. -/
def readScalar (s : List Char) : Except ReadError (Json × List Char) :=
  match s with
  | [] => .error .unexpectedEnd
  | c :: _ =>
    if c = '-' || c.isDigit then do
      let (numeral, rest) ← Numeral.take s
      match numeral.value? with
      | some n => return (.number n, rest)
      | none => throw .numberOutOfRange
    else
      match literals.findSome? fun (word, v) => (word.isPrefixOf? s).map fun rest => (v, rest) with
      | some (v, rest) => .ok (v, rest)
      | none => .error (.unexpectedCharacter c)

/-- A value that holds at most `levels` arrays and objects inside each other. -/
def readValue : Nat → List Char → Except ReadError (Json × List Char)
  | levels, s =>
    match skipBlanks s with
    | [] => .error .unexpectedEnd
    | '"' :: rest => (readString rest).map fun (text, rest) => (.string (String.ofList text), rest)
    | '[' :: rest =>
      match levels with
      | 0 => .error .nestedTooDeeply
      | levels + 1 =>
        (readItems ']' (readValue levels) rest).map fun (items, rest) => (.array items, rest)
    | '{' :: rest =>
      match levels with
      | 0 => .error .nestedTooDeeply
      | levels + 1 =>
        (readItems '}' (readMember (readValue levels)) rest).map fun (members, rest) =>
          (.object (Table.ofList members), rest)
    | s => readScalar s

/-- How many arrays and objects may stand inside each other. -/
def maximalNesting : Nat := 127

/-- The value that a text denotes. -/
def parse (s : List Char) : Except ReadError Json := do
  let (v, rest) ← readValue maximalNesting s
  if (skipBlanks rest).isEmpty then return v else throw .trailingCharacters

end CouchLoad.Json
