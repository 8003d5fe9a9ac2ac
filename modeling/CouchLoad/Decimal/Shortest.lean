import CouchLoad.Decimal.Binary

/-!
# Shortest decimals

Of the decimals that read back as a given double, the one with the fewest digits is written,
and of those the nearest. The decimals with one digit are tried first, then those with two, and
so on; on each grid only the two neighbours of the exact value have to be looked at.
-/

namespace CouchLoad.Decimal

/-- A decimal `digits * 10 ^ exponent`. -/
structure Scientific where
  digits : Nat
  exponent : Int
  deriving DecidableEq, Repr

/-- The numbers that round to a double lie between `low / unit` and `high / unit`, the ends
included if `closed`; the double itself is `value / unit`. -/
structure Interval where
  low : Nat
  value : Nat
  high : Nat
  unit : Nat
  closed : Bool

/-- The interval of a nonzero finite double, in quarters of its last binary place. -/
def Binary.interval (b : Binary) : Interval :=
  let spread := if b.mantissa = 0x10000000000000 && b.exponent > -1074 then 1 else 2
  let p := b.exponent - 2
  let weight := Nat.pow 2 p.toNat
  { low := (4 * b.mantissa - spread) * weight
    value := 4 * b.mantissa * weight
    high := (4 * b.mantissa + 2) * weight
    unit := Nat.pow 2 (-p).toNat
    closed := b.mantissa % 2 = 0 }

/-- Whether `digits * 10 ^ k` lies in the interval. -/
def Interval.holds (i : Interval) (digits : Nat) (k : Int) : Bool :=
  let x := digits * Nat.pow 10 k.toNat * i.unit
  let scale := Nat.pow 10 (-k).toNat
  if i.closed then i.low * scale ≤ x && x ≤ i.high * scale
  else i.low * scale < x && x < i.high * scale

/-- The best point of the grid of multiples of `10 ^ k`, if one lies in the interval. -/
def Interval.onGrid? (i : Interval) (k : Int) : Option Scientific :=
  let num := i.value * Nat.pow 10 (-k).toNat
  let den := i.unit * Nat.pow 10 k.toNat
  let below := num / den
  let twice := 2 * (num % den)
  let preferBelow := twice < den || twice = den && below % 2 = 0
  match i.holds below k, i.holds (below + 1) k with
  | true, true => some ⟨if preferBelow then below else below + 1, k⟩
  | true, false => some ⟨below, k⟩
  | false, true => some ⟨below + 1, k⟩
  | false, false => none

/-- The exponent of the leading decimal digit of `num / den`, starting from a guess that is off
by at most one. -/
def leadingExponent (num den : Nat) (guess : Int) : Int :=
  let reaches (e : Int) : Bool := den * Nat.pow 10 e.toNat ≤ num * Nat.pow 10 (-e).toNat
  if reaches (guess + 1) then guess + 1
  else if reaches guess then guess
  else guess - 1

/-- The first grid with a point in the interval, from `10 ^ k` downwards. -/
def Interval.search (i : Interval) : Nat → Int → Scientific
  | 0, k => ⟨i.value * Nat.pow 10 (-k).toNat / (i.unit * Nat.pow 10 k.toNat), k⟩
  | fuel + 1, k =>
    match i.onGrid? k with
    | some found => found
    | none => i.search fuel (k - 1)

/-- The shortest decimal of the magnitude of a nonzero finite double. Seventeen digits always
suffice. -/
def shortest (b : Binary) : Scientific :=
  let i := b.interval
  let guess := (b.exponent + Nat.log2 b.mantissa) * 30103 / 100000
  i.search 17 (leadingExponent i.value i.unit guess)

/-- Where positional notation ends: numbers whose leading digit has an exponent from `least` up
to but not including `limit` are written positionally. -/
structure Layout where
  least : Int
  limit : Int
  deriving DecidableEq, Repr

/-- Drop the zeros behind the last other digit. -/
def dropTrailingZeros (digits : List Char) : List Char :=
  (digits.reverse.dropWhile (· = '0')).reverse

/-- Write a decimal. Positional notation always has a digit after the point, and the exponent
of the other notation always has a sign. -/
def Scientific.render (layout : Layout) (x : Scientific) : List Char :=
  let all := Nat.toDigits 10 x.digits
  let leading : Int := x.exponent + (all.length - 1 : Nat)
  let digits := dropTrailingZeros all
  if layout.least ≤ leading && leading < layout.limit then
    if leading < 0 then
      '0' :: '.' :: List.replicate (-leading - 1).toNat '0' ++ digits
    else
      let whole := leading.toNat + 1
      let fraction := digits.drop whole
      (digits.take whole ++ List.replicate (whole - digits.length) '0') ++
        '.' :: (if fraction.isEmpty then ['0'] else fraction)
  else
    let mark := if leading < 0 then ['e', '-'] else ['e', '+']
    digits.take 1 ++ (if digits.length > 1 then '.' :: digits.drop 1 else []) ++
      mark ++ Nat.toDigits 10 leading.natAbs

/-- The shortest decimal text of a finite double; a zero keeps its sign. -/
def renderShortest? (layout : Layout) (bits : UInt64) : Option (List Char) := do
  let b ← Binary.ofBits? bits
  let magnitude := if b.mantissa = 0 then ['0', '.', '0'] else (shortest b).render layout
  return if b.negative then '-' :: magnitude else magnitude

end CouchLoad.Decimal
