import CouchLoad.Entropy.Source
import CouchLoad.Text.Numeral

/-!
# Random unique identifiers

Version 4 of the universally unique identifiers: 128 bits, of which six are fixed.
-/

namespace CouchLoad.Entropy

/-- A version 4 identifier, by the words it was drawn from. -/
structure Uuid where
  high : UInt64
  low : UInt64
  deriving DecidableEq, Repr

/-- Draw an identifier. -/
def Uuid.draw (s : Source) : Uuid × Source :=
  let (high, s) := s.next
  let (low, s) := s.next
  (⟨high, low⟩, s)

/-- The thirty-two hexadecimal digits, with the version and the variant in their places. -/
def Uuid.digits (u : Uuid) : List Char :=
  let high := (u.high &&& 0xffffffffffff0fff) ||| 0x4000
  let low := (u.low &&& 0x3fffffffffffffff) ||| 0x8000000000000000
  Text.hex 16 high.toNat ++ Text.hex 16 low.toNat

/-- The digits in one run. -/
def Uuid.simple (u : Uuid) : String :=
  String.ofList u.digits

/-- The digits in five groups with hyphens between them. -/
def Uuid.hyphenated (u : Uuid) : String :=
  let d := u.digits
  let groups := [d.take 8, (d.drop 8).take 4, (d.drop 12).take 4, (d.drop 16).take 4, d.drop 20]
  String.ofList (List.intercalate ['-'] groups)

end CouchLoad.Entropy
