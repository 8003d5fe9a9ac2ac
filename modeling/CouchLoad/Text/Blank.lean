/-!
# Blank characters

A class of characters is given by the inclusive ranges of its code points, in increasing order
and apart from each other. Blank means the Unicode property White_Space: trimming, comment lines
and the gaps between the tokens of a condition all use this one class.
-/

namespace CouchLoad.Text

/-- Whether a character lies in one of the ranges. -/
def inRanges (ranges : List (Nat × Nat)) (c : Char) : Bool :=
  ranges.any fun r => r.1 ≤ c.toNat && c.toNat ≤ r.2

/-- The inclusive ranges of code points that have the property White_Space. -/
def blankRanges : List (Nat × Nat) :=
  [(0x09, 0x0d), (0x20, 0x20), (0x85, 0x85), (0xa0, 0xa0), (0x1680, 0x1680), (0x2000, 0x200a),
    (0x2028, 0x2029), (0x202f, 0x202f), (0x205f, 0x205f), (0x3000, 0x3000)]

/-- Whether a character has the property White_Space. -/
def isBlank (c : Char) : Bool :=
  inRanges blankRanges c

/-- Drop the blanks in front of a text. -/
def trimStart (s : List Char) : List Char :=
  s.dropWhile isBlank

/-- Drop the blanks behind a text. -/
def trimEnd (s : List Char) : List Char :=
  (s.reverse.dropWhile isBlank).reverse

/-- Drop the blanks on both sides of a text. -/
def trim (s : List Char) : List Char :=
  trimEnd (trimStart s)

end CouchLoad.Text
