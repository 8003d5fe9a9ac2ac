import CouchLoad.Entropy.Source

/-!
# Draws

Numbers below a bound are drawn by a widening multiplication with at most one correction, so
that every draw takes one word or two. Letters are drawn by rejection.
-/

namespace CouchLoad.Entropy

/-- A number below `n`. The word is scaled down to the range; where the part that is cut off
could hide a bias, a second word decides whether it carries. -/
def below (width : Width) (n : Nat) (s : Source) : Nat × Source :=
  let size := width.size
  let (x, s) := width.draw s
  if n = size then (x, s)
  else
    let result := x * n / size
    let rest := x * n % size
    if rest > size - n then
      let (y, s) := width.draw s
      (if rest + y * n / size ≥ size then result + 1 else result, s)
    else (result, s)

/-- An integer from `low` to `high`, the ends included. If the two span all numbers of 64 bits,
the word itself is the number. -/
def integer (low high : Int) (s : Source) : Int × Source :=
  let count := (high - low + 1).toNat
  let (x, s) := below .full count s
  if count = Width.full.size then
    (if 2 * x < Width.full.size then x else (x : Int) - Width.full.size, s)
  else (low + x, s)

/-- The sixty-two letters and digits. -/
def alphabet : List Char :=
  "ABCDEFGHIJKLMNOPQRSTUVWXYZabcdefghijklmnopqrstuvwxyz0123456789".toList

/-- A number below sixty-two: six bits at a time are looked at until they are small enough. The
fuel is the number of words up to the zeros, and a zero is always small enough. -/
def letterIndex : Nat → Source → Nat × Source
  | 0, s => (0, s.next.2)
  | fuel + 1, s =>
    let (x, s) := Width.half.draw s
    let v := x / 0x4000000
    if v < 62 then (v, s) else letterIndex fuel s

/-- A letter or digit. -/
def letter (s : Source) : Char × Source :=
  let (v, s) := letterIndex s.remaining s
  (alphabet.getD v 'A', s)

/-- So many letters and digits. -/
def letters : Nat → Source → List Char × Source
  | 0, s => ([], s)
  | k + 1, s =>
    let (c, s) := letter s
    let (cs, s) := letters k s
    (c :: cs, s)

/-- The bounds of a length that is itself drawn. -/
def shortestText : Nat := 10

@[inherit_doc shortestText]
def longestText : Nat := 999

/-- A length for a text of letters and digits. -/
def textLength (s : Source) : Nat × Source :=
  let (x, s) := below .half (longestText - shortestText + 1) s
  (shortestText + x, s)

/-- The bits that a place in a list of `n` entries is drawn from: as many as it takes to count the
entries. -/
def Width.counting (n : Nat) : Width :=
  if n < Width.half.size then .half else .full

/-- One of the options; only an empty list has none. -/
def pick {α : Type} (options : List α) (s : Source) : Option α × Source :=
  if options.isEmpty then (none, s)
  else
    let (x, s) := below (.counting options.length) options.length s
    (options[x]?, s)

end CouchLoad.Entropy
