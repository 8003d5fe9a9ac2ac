import CouchLoad.Json.Basic
import CouchLoad.Text.Numeral

/-!
# JSON numerals

A numeral without fraction and exponent that fits in 64 bits denotes a whole number. Any other
denotes a double: its digits are gathered while they fit in 64 bits, and the double nearest to
what was gathered is multiplied or divided by one power of ten.
-/

namespace CouchLoad.Json

open Text

/-- The parts of a numeral. -/
structure Numeral where
  negative : Bool
  whole : List Char
  fraction : Option (List Char)
  exponent : Option (Bool × List Char)
  deriving DecidableEq, Repr

/-- A nonempty run of digits at the front of a text, and the rest. -/
def takeDigits (s : List Char) : Except ReadError (List Char × List Char) :=
  match s.takeWhile Char.isDigit, s with
  | [], [] => .error .unexpectedEnd
  | [], _ => .error .invalidNumber
  | digits, _ => .ok (digits, s.dropWhile Char.isDigit)

/-- The digits before the point: a zero stands alone. -/
def takeWhole (s : List Char) : Except ReadError (List Char × List Char) := do
  let (digits, rest) ← takeDigits s
  if digits.length > 1 && digits.head? = some '0' then throw .invalidNumber
  return (digits, rest)

/-- The fraction of a numeral, if there is one. -/
def takeFraction : List Char → Except ReadError (Option (List Char) × List Char)
  | '.' :: s => do
    let (digits, rest) ← takeDigits s
    return (some digits, rest)
  | s => return (none, s)

/-- The exponent of a numeral, if there is one: whether it is negative, and its digits. -/
def takeExponent (s : List Char) : Except ReadError (Option (Bool × List Char) × List Char) :=
  match s with
  | 'e' :: s | 'E' :: s => do
    let (negative, s) := match s with
      | '-' :: s => (true, s)
      | '+' :: s => (false, s)
      | _ => (false, s)
    let (digits, rest) ← takeDigits s
    return (some (negative, digits), rest)
  | _ => return (none, s)

/-- The numeral at the front of a text, and the rest. -/
def Numeral.take (s : List Char) : Except ReadError (Numeral × List Char) := do
  let (negative, s) := match s with
    | '-' :: s => (true, s)
    | _ => (false, s)
  let (whole, s) ← takeWhole s
  let (fraction, s) ← takeFraction s
  let (exponent, s) ← takeExponent s
  return (⟨negative, whole, fraction, exponent⟩, s)

/-- Append digits to a number while the result fits in 64 bits: the number reached, and how many
digits were appended. -/
def appendDigits (n : Nat) : List Char → Nat × Nat
  | [] => (n, 0)
  | c :: s =>
    let next := 10 * n + digitValue c
    if next < 0x10000000000000000 then
      let (result, count) := appendDigits next s
      (result, count + 1)
    else (n, 0)

/-- The double nearest to a power of ten. -/
def powerOfTen (k : Nat) : Float :=
  Float.ofScientific 1 false k

/-- Multiply a double by a power of ten, unless the result is too large. -/
def scale? (x : Float) (k : Int) : Option Float :=
  if k.natAbs ≤ 308 then
    if k < 0 then some (x / powerOfTen k.natAbs)
    else
      let y := x * powerOfTen k.natAbs
      if y.isInf then none else some y
  else if x == 0 then some x
  else if k ≥ 0 then none
  else scale? (x / powerOfTen 308) (k + 308)
termination_by k.natAbs

/-- The largest exponent that takes part in the arithmetic. -/
def exponentLimit : Nat := 0x80000000

/-- The magnitude of a numeral that denotes a double. -/
def Numeral.magnitude? (n : Numeral) : Option Float :=
  let (head, taken) := appendDigits 0 n.whole
  let (significand, places) := appendDigits head (n.fraction.getD [])
  let base : Int := (n.whole.length - taken : Nat) - (places : Int)
  let x := significand.toUInt64.toFloat
  match n.exponent with
  | none => scale? x base
  | some (negative, digits) =>
    let e := natOfDigits digits
    if e < exponentLimit then scale? x (if negative then base - e else base + e)
    else if significand = 0 || negative then some 0
    else none

/-- The double that a numeral denotes, unless it is too large. -/
def Numeral.double? (n : Numeral) : Option Number :=
  n.magnitude?.map fun x => .double (if n.negative then -x else x).toBits

/-- The number that a numeral denotes, unless it is too large for a double. -/
def Numeral.value? (n : Numeral) : Option Number :=
  let whole := natOfDigits n.whole
  if n.fraction.isSome || n.exponent.isSome then n.double?
  else if !n.negative && whole < 0x10000000000000000 then some (.whole whole)
  else if n.negative && 0 < whole && whole ≤ 0x8000000000000000 then some (.whole (-whole))
  else n.double?

end CouchLoad.Json
