/-!
# Whole numbers in text

A numeral is a run of ASCII digits, with a sign where the kind of number admits one. Numerals
outside the range of the wanted width are refused rather than wrapped.
-/

namespace CouchLoad.Text

/-- The value of a digit. -/
def digitValue (c : Char) : Nat :=
  c.toNat - '0'.toNat

/-- The number that a run of digits denotes. -/
def natOfDigits (digits : List Char) : Nat :=
  digits.foldl (fun n c => 10 * n + digitValue c) 0

/-- The value of a hexadecimal digit of either case. -/
def hexValue? (c : Char) : Option Nat :=
  if c.isDigit then some (digitValue c)
  else if 'a' ≤ c && c ≤ 'f' then some (c.toNat - 'a'.toNat + 10)
  else if 'A' ≤ c && c ≤ 'F' then some (c.toNat - 'A'.toNat + 10)
  else none

/-- The number that a run of digits denotes in a base of at most sixteen. No digits denote zero. -/
def parseInBase? (base : Nat) (s : List Char) : Option Nat := do
  let values ← s.mapM hexValue?
  if values.all (· < base) then some (values.foldl (fun n v => base * n + v) 0) else none

/-- A nonempty run of digits and nothing else. -/
def parseDigits? (s : List Char) : Option Nat :=
  if s.isEmpty || !s.all Char.isDigit then none else some (natOfDigits s)

/-- Digits after an optional plus sign, denoting a number of at most `bits` bits. -/
def parseUnsigned? (bits : Nat) (s : List Char) : Option Nat :=
  let digits := match s with
    | '+' :: rest => rest
    | _ => s
  (parseDigits? digits).filter (· < Nat.pow 2 bits)

/-- Digits after an optional sign, denoting a two's complement number of `bits` bits. -/
def parseSigned? (bits : Nat) (s : List Char) : Option Int :=
  let value := match s with
    | '+' :: rest => (parseDigits? rest).map Int.ofNat
    | '-' :: rest => (parseDigits? rest).map fun n => -Int.ofNat n
    | _ => (parseDigits? s).map Int.ofNat
  let half := Int.ofNat (Nat.pow 2 (bits - 1))
  value.filter fun n => -half ≤ n && n < half

/-- A text without the sign in front. -/
def withoutSign : List Char → List Char
  | '+' :: s => s
  | '-' :: s => s
  | s => s

/-- Whether a text is a numeral of any kind of number: digits with at most one point among them
and at most one exponent behind them, or infinity or no number by their names. -/
def isNumeral (s : List Char) : Bool :=
  let s := withoutSign (s.map Char.toLower)
  let digits := s.takeWhile fun c => c.isDigit || c = '.'
  let written := (digits.erase '.').length > 0 && (digits.erase '.').all Char.isDigit
  ["inf", "infinity", "nan"].contains (String.ofList s) ||
    match s.drop digits.length with
    | [] => written
    | 'e' :: exponent => written && (parseDigits? (withoutSign exponent)).isSome
    | _ => false

/-- The decimal digits of a number, without leading zeros. -/
def decimal (n : Nat) : List Char :=
  Nat.toDigits 10 n

/-- The decimal numeral of an integer, with a minus sign in front of a negative one. -/
def decimalInt : Int → List Char
  | .ofNat n => decimal n
  | .negSucc n => '-' :: decimal (n + 1)

/-- The lower-case hexadecimal digits of a number, with zeros in front up to `width` digits. -/
def hex (width n : Nat) : List Char :=
  (Nat.toDigits 16 n).leftpad width '0'

end CouchLoad.Text
