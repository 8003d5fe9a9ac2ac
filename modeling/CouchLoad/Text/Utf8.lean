/-!
# UTF-8

Bytes are read one at a time. The leading byte of a character fixes which bytes may follow, so
that overlong forms, surrogates and numbers above the last code point are refused at the first
byte that rules them out. The bytes read up to there are one malformed stretch.
-/

namespace CouchLoad.Text

/-- The UTF-8 form of a text. -/
def utf8Encode (s : List Char) : List UInt8 :=
  s.flatMap String.utf8EncodeChar

/-- The number of bytes of a text in UTF-8. -/
def utf8Length (s : List Char) : Nat :=
  s.foldl (fun n c => n + c.utf8Size) 0

/-- The two sides of a text around a place that is given by the number of bytes before it. There is
none inside of a character or behind the text. -/
def splitAtByte? : Nat → List Char → Option (List Char × List Char)
  | n, [] => if n = 0 then some ([], []) else none
  | n, c :: s =>
    if n = 0 then some ([], c :: s)
    else if n < c.utf8Size then none
    else (splitAtByte? (n - c.utf8Size) s).map fun (before, after) => (c :: before, after)

/-- The bits that a leading byte contributes and the ranges of the bytes that must follow it. -/
def leadingByte? (b : Nat) : Option (Nat × List (Nat × Nat)) :=
  let tail := (0x80, 0xbf)
  if b < 0x80 then some (b, [])
  else if b < 0xc2 then none
  else if b < 0xe0 then some (b - 0xc0, [tail])
  else if b = 0xe0 then some (0, [(0xa0, 0xbf), tail])
  else if b = 0xed then some (0xd, [(0x80, 0x9f), tail])
  else if b < 0xf0 then some (b - 0xe0, [tail, tail])
  else if b = 0xf0 then some (0, [(0x90, 0xbf), tail, tail])
  else if b < 0xf4 then some (b - 0xf0, [tail, tail, tail])
  else if b = 0xf4 then some (4, [(0x80, 0x8f), tail, tail])
  else none

/-- A character of which some bytes have been read: the ranges of the bytes still owed and the
bits so far. Nothing is owed between characters. -/
structure Unfinished where
  owed : List (Nat × Nat)
  code : Nat

/-- Start a character with the byte `b`. What is known by then, a whole character or a malformed
stretch, is returned beside what is unfinished. -/
def Unfinished.start (b : UInt8) : List (Option Char) × Unfinished :=
  match leadingByte? b.toNat with
  | none => ([none], ⟨[], 0⟩)
  | some (bits, []) => ([some (Char.ofNat bits)], ⟨[], 0⟩)
  | some (bits, ranges) => ([], ⟨ranges, bits⟩)

/-- Read the byte `b` behind an unfinished character. A byte that may not follow ends a malformed
stretch and starts anew. -/
def Unfinished.next (u : Unfinished) (b : UInt8) : List (Option Char) × Unfinished :=
  match u.owed with
  | [] => start b
  | (low, high) :: more =>
    if low ≤ b.toNat && b.toNat ≤ high then
      let code := 64 * u.code + b.toNat % 64
      if more.isEmpty then ([some (Char.ofNat code)], ⟨[], 0⟩) else ([], ⟨more, code⟩)
    else
      let (found, u) := start b
      (none :: found, u)

/-- Read bytes behind an unfinished character. The result holds one entry per character and
`none` for each malformed stretch. -/
def utf8Scan (u : Unfinished) : List UInt8 → List (Option Char)
  | [] => if u.owed.isEmpty then [] else [none]
  | b :: bytes =>
    let (found, u) := u.next b
    found ++ utf8Scan u bytes

/-- The text that the bytes are the UTF-8 form of, if there is one. -/
def utf8Decode? (bytes : List UInt8) : Option (List Char) :=
  (utf8Scan ⟨[], 0⟩ bytes).mapM id

/-- The text of the bytes with the replacement character for each malformed stretch. -/
def utf8DecodeLossy (bytes : List UInt8) : List Char :=
  (utf8Scan ⟨[], 0⟩ bytes).map (·.getD '\ufffd')

end CouchLoad.Text
