import CouchLoad.Text.Split

/-!
# Punycode

A label with characters above ASCII has a form in ASCII: its ASCII characters, a hyphen, and
digits that say which characters are missing and where they belong. The missing characters are
taken in the order of their code points, and of each the text says how far behind the one before
it comes, counted over all code points and all places where it could stand. The digits are the
letters and then the ten digits, and how many of them a number takes depends on a bias, which
follows the numbers seen so far.
-/

namespace CouchLoad.Url.Domain.Punycode

open Text

/-- How many digits there are. -/
def base : Nat := 36

/-- The code point before which no character is missing. -/
def firstCodePoint : Nat := 0x80

/-- The bias at the start. -/
def firstBias : Nat := 72

/-- The value of a digit of either case. -/
def digitValue? (c : Char) : Option Nat :=
  if c.isAlpha then some (c.toLower.toNat - 'a'.toNat)
  else if c.isDigit then some (c.toNat - '0'.toNat + 26)
  else none

/-- The digit of a value. -/
def digit (value : Nat) : Char :=
  if value < 26 then Char.ofNat ('a'.toNat + value) else Char.ofNat ('0'.toNat + (value - 26))

/-- The value below which a digit is the last of its number. `position` counts the digits of a
number in steps of the base, from the base on. -/
def threshold (bias position : Nat) : Nat :=
  max 1 (min 26 (position - bias))

/-- The bias that fits numbers around `size`, found from the bias `sum` on. -/
def settle (size sum : Nat) : Nat :=
  if 455 < size then settle (size / 35) (sum + base) else sum + base * size / (size + 38)
termination_by size
decreasing_by exact Nat.div_lt_self (by omega) (by decide)

/-- The bias behind a number, when there are `length` characters. The first number is likely to be
much greater than the others. -/
def adapt (number length : Nat) (isFirst : Bool) : Nat :=
  let size := number / (if isFirst then 700 else 2)
  settle (size + size / length) 0

/-! ### Reading -/

/-- What is known in the midst of the digits. -/
structure Reading where
  characters : List Char
  codePoint : Nat
  bias : Nat
  /-- Where the next character would stand, and what the digits of a number add to it. -/
  place : Nat
  /-- The place before the number. -/
  start : Nat
  weight : Nat
  position : Nat

namespace Reading

/-- The state before the first digit. -/
def initial (characters : List Char) : Reading :=
  { characters, codePoint := firstCodePoint, bias := firstBias, place := 0, start := 0,
    weight := 1, position := base }

/-- Put in the character that a finished number stands for. -/
def finish? (r : Reading) : Option Reading :=
  let length := r.characters.length + 1
  let codePoint := r.codePoint + r.place / length
  let place := r.place % length
  if Nat.isValidChar codePoint then
    some
      { characters := r.characters.insertIdx place (Char.ofNat codePoint)
        codePoint
        bias := adapt (r.place - r.start) length (r.start = 0)
        place := place + 1
        start := place + 1
        weight := 1
        position := base }
  else none

/-- Take one digit. Numbers and weights stay below two to the thirty-second. -/
def step? (r : Reading) (c : Char) : Option Reading := do
  let value ← digitValue? c
  let r := { r with place := r.place + value * r.weight }
  let threshold := threshold r.bias r.position
  let weight := r.weight * (base - threshold)
  if r.place ≥ 0x100000000 then none
  else if value < threshold then r.finish?
  else if weight ≥ 0x100000000 then none
  else some { r with weight, position := r.position + base }

end Reading

/-- The characters that a form in ASCII stands for. A hyphen in front belongs to the digits. -/
def decode? (s : List Char) : Option (List Char) := do
  let (characters, digits) :=
    match splitAtLast? ['-'] s with
    | none | some ([], _) => ([], s)
    | some (characters, digits) => (characters, digits)
  let r ← digits.foldlM Reading.step? (.initial characters)
  if r.weight = 1 then some r.characters else none

/-! ### Writing -/

/-- The digits of a number. -/
def digits (bias position number : Nat) : List Char :=
  let t := threshold bias position
  if number < t then [digit number]
  else
    digit (t + (number - t) % (base - t)) ::
      digits bias (position + base) ((number - t) / (base - t))
termination_by number
decreasing_by
  have : 1 ≤ threshold bias position := Nat.le_max_left ..
  exact Nat.lt_of_le_of_lt (Nat.div_le_self ..) (by omega)

/-- What is known in the midst of writing. -/
structure Writing where
  written : List Char
  number : Nat
  bias : Nat
  /-- How many characters have been taken. -/
  taken : Nat

/-- Pass one character of the text when the missing characters of some code point are taken.
`basic` tells how many characters were there at first. -/
def Writing.pass (basic codePoint : Nat) (w : Writing) (c : Char) : Writing :=
  if c.toNat < codePoint then { w with number := w.number + 1 }
  else if c.toNat = codePoint then
    { written := w.written ++ digits w.bias base w.number
      number := 0
      bias := adapt w.number (w.taken + 1) (w.taken = basic)
      taken := w.taken + 1 }
  else w

/-- Take the missing characters of code points in increasing order; `previous` is the one from
which on they are counted. -/
def Writing.passAll (s : List Char) (basic previous : Nat) (w : Writing) :
    List Nat → Writing
  | [] => w
  | codePoint :: rest =>
    let w := { w with number := w.number + (codePoint - previous) * (w.taken + 1) }
    let w := s.foldl (pass basic codePoint) w
    passAll s basic (codePoint + 1) { w with number := w.number + 1 } rest

/-- The form in ASCII of a text. -/
def encode (s : List Char) : List Char :=
  let basic := s.filter fun c => c.toNat < firstCodePoint
  let codePoints := (s.map Char.toNat).filter fun n => firstCodePoint ≤ n
  let sorted := (codePoints.mergeSort fun a b => a ≤ b).eraseDups
  let start : Writing := { written := [], number := 0, bias := firstBias, taken := basic.length }
  let mark := if basic.isEmpty then [] else ['-']
  basic ++ mark ++ (start.passAll s basic.length firstCodePoint sorted).written

end CouchLoad.Url.Domain.Punycode
