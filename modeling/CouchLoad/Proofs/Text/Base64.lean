import CouchLoad.Text.Base64
import Mathlib.Tactic.Common

/-!
# Reading base64

A group of four characters stands for three bytes. A last group that is padded stands for fewer,
and the bits that are left over in it are zero. What is read from the base64 form of bytes are these
bytes.
-/

namespace CouchLoad.Text

/-- The value of a character of the standard alphabet. -/
def base64Value? (c : Char) : Option Nat :=
  base64Alphabet.idxOf? c

/-- The bytes of which a text is the base64 form, if there are any. -/
def base64Decode? : List Char → Option (List UInt8)
  | [] => some []
  | [a, b, '=', '='] => do
    let n := (← base64Value? a) * 64 + (← base64Value? b)
    if n % 16 = 0 then return [UInt8.ofNat (n / 16)] else none
  | [a, b, c, '='] => do
    let n := ((← base64Value? a) * 64 + (← base64Value? b)) * 64 + (← base64Value? c)
    if n % 4 = 0 then return [UInt8.ofNat (n / 1024), UInt8.ofNat (n / 4)] else none
  | a :: b :: c :: d :: rest => do
    let n := (((← base64Value? a) * 64 + (← base64Value? b)) * 64 + (← base64Value? c)) * 64 +
      (← base64Value? d)
    return UInt8.ofNat (n / 65536) :: UInt8.ofNat (n / 256) :: UInt8.ofNat n ::
      (← base64Decode? rest)
  | _ => none

lemma base64Value?_base64Char {n : Nat} (h : n < 64) : base64Value? (base64Char n) = some n := by
  revert n
  decide +kernel

lemma base64Char_ne_padding {n : Nat} (h : n < 64) : base64Char n ≠ '=' := by
  revert n
  decide +kernel

lemma base64Char_mem (n : Nat) : base64Char n = '=' ∨ base64Char n ∈ base64Alphabet := by
  rw [base64Char, List.getD_eq_getElem?_getD]
  cases h : base64Alphabet[n]? with
  | none => exact .inl rfl
  | some c => exact .inr (List.mem_of_getElem? h)

/-- A byte from a number that has it as its lowest bits. -/
lemma ofNat_eq_of_mod {n : Nat} {a : UInt8} (h : n % 256 = a.toNat) : UInt8.ofNat n = a := by
  apply UInt8.toNat_inj.1
  rw [UInt8.toNat_ofNat', h]

/-- Bytes are read back from their base64 form. -/
lemma base64Decode?_base64Encode (bytes : List UInt8) :
    base64Decode? (base64Encode bytes) = some bytes := by
  induction bytes using base64Encode.induct with
  | case1 => rfl
  | case2 a =>
    have ha := a.toNat_lt
    rw [base64Encode, base64Decode?, base64Value?_base64Char (by omega),
      base64Value?_base64Char (by omega)]
    simp only [Option.bind_eq_bind, Option.bind_some]
    rw [if_pos (by omega), ofNat_eq_of_mod (a := a) (by omega)]
    rfl
  | case3 a b =>
    have ha := a.toNat_lt
    have hb := b.toNat_lt
    rw [base64Encode, base64Decode?, base64Value?_base64Char (by omega),
      base64Value?_base64Char (by omega), base64Value?_base64Char (by omega)]
    · simp only [Option.bind_eq_bind, Option.bind_some]
      rw [if_pos (by omega), ofNat_eq_of_mod (a := a) (by omega),
        ofNat_eq_of_mod (a := b) (by omega)]
      rfl
    · exact base64Char_ne_padding (by omega)
  | case4 a b c rest ih =>
    have ha := a.toNat_lt
    have hb := b.toNat_lt
    have hc := c.toNat_lt
    rw [base64Encode, base64Decode?, base64Value?_base64Char (by omega),
      base64Value?_base64Char (by omega), base64Value?_base64Char (by omega),
      base64Value?_base64Char (by omega), ih]
    · simp only [Option.bind_eq_bind, Option.bind_some]
      rw [ofNat_eq_of_mod (a := a) (by omega), ofNat_eq_of_mod (a := b) (by omega),
        ofNat_eq_of_mod (a := c) (by omega)]
      rfl
    -- a group without padding is none of the last groups
    · exact fun _ hd _ => base64Char_ne_padding (by omega) hd
    · exact fun hd _ => base64Char_ne_padding (by omega) hd

/-- A base64 form consists of characters of the alphabet and of padding. -/
lemma mem_of_mem_base64Encode (bytes : List UInt8) :
    ∀ c ∈ base64Encode bytes, c = '=' ∨ c ∈ base64Alphabet := by
  induction bytes using base64Encode.induct with
  | case1 => simp [base64Encode]
  | case2 a => simp [base64Encode, base64Char_mem]
  | case3 a b => simp [base64Encode, base64Char_mem]
  | case4 a b c rest ih =>
    simp only [base64Encode, List.forall_mem_cons, base64Char_mem, true_and]
    exact ih

end CouchLoad.Text
