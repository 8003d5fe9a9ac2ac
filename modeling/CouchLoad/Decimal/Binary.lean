/-!
# Binary fractions

A finite double-precision number is a sign and a magnitude `m * 2 ^ q` with natural `m`. Its decimal
with a fixed number of places is the exact value rounded to them; a value half way between two
neighbours goes to the even one.
-/

namespace CouchLoad.Decimal

/-- The magnitude `mantissa * 2 ^ exponent` and the sign of a finite double. -/
structure Binary where
  negative : Bool
  mantissa : Nat
  exponent : Int
  deriving DecidableEq, Repr

/-- The number that a pattern of 64 bits stands for, if that number is finite. -/
def Binary.ofBits? (bits : UInt64) : Option Binary :=
  let n := bits.toNat
  let fraction : Nat := n % 0x10000000000000
  let biased : Nat := n / 0x10000000000000 % 0x800
  let negative := decide (n ≥ 0x8000000000000000)
  if biased = 2047 then none
  else if biased = 0 then some ⟨negative, fraction, -1074⟩
  else some ⟨negative, fraction + 0x10000000000000, (biased : Int) - 1075⟩

/-- `n * 2 ^ p * 10 ^ k` as a fraction of natural numbers. -/
def scaled (n : Nat) (p k : Int) : Nat × Nat :=
  (n * Nat.pow 2 p.toNat * Nat.pow 10 k.toNat, Nat.pow 2 (-p).toNat * Nat.pow 10 (-k).toNat)

/-! ### Decimals with a fixed number of places -/

/-- The quotient rounded to the nearest whole number, a half going to the even neighbour. -/
def roundDiv (num den : Nat) : Nat :=
  let floor := num / den
  let twice := 2 * (num % den)
  if twice < den then floor
  else if twice > den then floor + 1
  else if floor % 2 = 0 then floor else floor + 1

/-- Write a count of units of the last place with a point before the last `places` digits. -/
def withPoint (places units : Nat) : List Char :=
  let digits := (Nat.toDigits 10 units).leftpad (places + 1) '0'
  let whole := digits.length - places
  digits.take whole ++ '.' :: digits.drop whole

/-- The decimal of a double with `places` digits after the point. -/
def fixed (places : Nat) (bits : UInt64) : List Char :=
  match Binary.ofBits? bits with
  | some b =>
    let (num, den) := scaled b.mantissa b.exponent places
    let magnitude := withPoint places (roundDiv num den)
    if b.negative then '-' :: magnitude else magnitude
  | none =>
    if bits.toNat % 0x10000000000000 ≠ 0 then ['N', 'a', 'N']
    else if bits.toNat ≥ 0x8000000000000000 then ['-', 'i', 'n', 'f']
    else ['i', 'n', 'f']

end CouchLoad.Decimal
