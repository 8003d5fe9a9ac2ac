import CouchLoad.Entropy.Draw

/-!
# Draws in words

Numbers and integers are drawn once more, now with all arithmetic on words. Products fall into two
words, and differences and sums wrap around, so that a range of all words has the size zero. Only
the carry may not wrap around: there is no number if it has no place in the word.
-/

namespace CouchLoad.Entropy

/-- How many bits a word has. -/
def Width.bits : Width → Nat
  | .half => 32
  | .full => 64

/-- A word, taken from the upper end of the next word of the source. -/
def Width.word (width : Width) (s : Source) : BitVec width.bits × Source :=
  let (w, s) := s.next
  (match width with
    | .half => (w.toBitVec >>> 32).setWidth 32
    | .full => w.toBitVec, s)

/-- The product of two words: its upper and its lower word. -/
def wideProduct {n : Nat} (x y : BitVec n) : BitVec n × BitVec n :=
  let product := x.setWidth (n + n) * y.setWidth (n + n)
  ((product >>> n).setWidth n, product.setWidth n)

/-- The next word, unless that is too large. -/
def successor? {n : Nat} (x : BitVec n) : Option (BitVec n) :=
  if x.uaddOverflow 1 then none else some (x + 1)

/-- A word below `size`, or any word if the size is zero. -/
def belowWords? (width : Width) (size : BitVec width.bits) (s : Source) :
    Option (BitVec width.bits) × Source :=
  let (x, s) := width.word s
  if size = 0 then (some x, s)
  else
    let (result, rest) := wideProduct x size
    if rest > -size then
      let (y, s) := width.word s
      (if rest.uaddOverflow (wideProduct y size).1 then successor? result else some result, s)
    else (some result, s)

/-- A signed word from `low` to `high`, the ends included. -/
def integerWords? (low high : Int64) (s : Source) : Option Int64 × Source :=
  let size := (high - low + 1).toBitVec
  let (x, s) := belowWords? .full size s
  (x.map fun x => if size = 0 then .ofBitVec x else low + .ofBitVec x, s)

end CouchLoad.Entropy
