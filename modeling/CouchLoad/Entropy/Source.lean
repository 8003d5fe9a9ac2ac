/-!
# Sources of randomness

All randomness of a run is a stream of 64-bit words that is zero from some point on. Every draw
says how many words it takes, and a run with the same words is the same run.
-/

namespace CouchLoad.Entropy

/-- A stream of words, of which `taken` are used up. -/
structure Source where
  word : Nat → UInt64
  horizon : Nat
  zero_beyond : ∀ n, horizon ≤ n → word n = 0
  taken : Nat

namespace Source

/-- The stream that holds the given words and then zeros. -/
def ofWords (words : Array UInt64) : Source where
  word n := words.getD n 0
  horizon := words.size
  zero_beyond n h := by simp [Array.getD, Nat.not_lt.2 h]
  taken := 0

/-- Scramble a word so that neighbouring words become unrelated. -/
def scramble (x : UInt64) : UInt64 :=
  let x := (x ^^^ (x >>> 30)) * 0xbf58476d1ce4e5b9
  let x := (x ^^^ (x >>> 27)) * 0x94d049bb133111eb
  x ^^^ (x >>> 31)

/-- More words than any run takes. -/
def endless : Nat := 0x4000000000000000

/-- A stream that is practically endless, derived from a seed. -/
def ofSeed (seed : UInt64) : Source where
  word n := if n < endless then scramble (seed + (n + 1).toUInt64 * 0x9e3779b97f4a7c15) else 0
  horizon := endless
  zero_beyond _ h := if_neg (Nat.not_lt.2 h)
  taken := 0

/-- The next word, and the source behind it. -/
def next (s : Source) : UInt64 × Source :=
  (s.word s.taken, { s with taken := s.taken + 1 })

/-- The number of words up to the zeros. -/
def remaining (s : Source) : Nat :=
  s.horizon - s.taken

end Source

/-- How many bits of a word a draw looks at: all of them, or the upper half. -/
inductive Width where
  | half
  | full
  deriving DecidableEq, Repr

/-- How many numbers there are of that many bits. -/
def Width.size : Width → Nat
  | .half => 0x100000000
  | .full => 0x10000000000000000

/-- A number of that many bits, taken from one word. -/
def Width.draw (width : Width) (s : Source) : Nat × Source :=
  let (w, s) := s.next
  (match width with
    | .half => w.toNat / 0x100000000
    | .full => w.toNat, s)

end CouchLoad.Entropy
