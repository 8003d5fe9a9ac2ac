import CouchLoad.Text.Numeral
import Mathlib.Tactic.Common
import Mathlib.Tactic.IntervalCases

/-!
# Numerals read back

The digits that are written for a number denote that number again. A hexadecimal numeral of a fixed
width has exactly that many digits as long as the number fits.
-/

namespace CouchLoad.Text

lemma isDigit_of_mem_decimal {n : Nat} {c : Char} (h : c ∈ decimal n) : c.isDigit = true :=
  Nat.isDigit_of_mem_toDigits (by decide) (by decide) h

lemma decimal_ne_nil (n : Nat) : decimal n ≠ [] := Nat.toDigits_ne_nil

lemma natOfDigits_decimal (n : Nat) : natOfDigits (decimal n) = n := by
  have h := Nat.ofDigitChars_ten_toDigits (n := n)
  rwa [Nat.ofDigitChars_eq_foldl] at h

lemma decimal_injective : Function.Injective decimal := by
  intro m n h
  rw [← natOfDigits_decimal m, h, natOfDigits_decimal]

/-- Different numbers are written differently. -/
lemma toString_injective : Function.Injective (toString : Nat → String) := by
  intro m n h
  have hdigits : m.repr.toList = n.repr.toList := congrArg String.toList h
  rw [Nat.toList_repr, Nat.toList_repr] at hdigits
  exact decimal_injective hdigits

lemma decimal_eq_toString (n : Nat) : decimal n = (toString n).toList :=
  Nat.toList_repr.symm

/-- Negative numbers have a minus sign in front. -/
lemma decimalInt_eq_toString (n : Int) : decimalInt n = (toString n).toList := by
  cases n with
  | ofNat n => exact decimal_eq_toString n
  | negSucc n =>
    show '-' :: Nat.toDigits 10 (n + 1) = ("-" ++ Nat.repr (n + 1)).toList
    rw [String.toList_append, Nat.toList_repr]
    rfl

lemma parseDigits?_decimal (n : Nat) : parseDigits? (decimal n) = some n := by
  have hall : (decimal n).all Char.isDigit = true :=
    List.all_eq_true.2 fun c hc => isDigit_of_mem_decimal hc
  simp [parseDigits?, hall, decimal_ne_nil, natOfDigits_decimal]

/-- A number that fits is read back from its digits. -/
lemma parseUnsigned?_decimal {bits n : Nat} (h : n < 2 ^ bits) :
    parseUnsigned? bits (decimal n) = some n := by
  have hplus : ∀ rest, decimal n ≠ '+' :: rest := by
    intro rest heq
    have : ('+' : Char).isDigit = true := isDigit_of_mem_decimal (heq ▸ List.mem_cons_self)
    exact absurd this (by decide)
  unfold parseUnsigned?
  dsimp only
  split
  · rename_i rest heq
    exact absurd heq (hplus rest)
  · rw [parseDigits?_decimal]
    simpa [Option.filter] using h

/-! ### Numerals as they are written -/

lemma digitValue_lt {c : Char} (hc : c.isDigit = true) : digitValue c < 10 := by
  have hrange : 48 ≤ c.toNat ∧ c.toNat ≤ 57 := Char.isDigit_iff_toNat.1 hc
  have hvalue : digitValue c = c.toNat - 48 := rfl
  omega

/-- The numeral of a digit is the digit. -/
lemma decimal_digitValue {c : Char} (hc : c.isDigit = true) : decimal (digitValue c) = [c] := by
  have hrange : 48 ≤ c.toNat ∧ c.toNat ≤ 57 := Char.isDigit_iff_toNat.1 hc
  have hvalue : digitValue c = c.toNat - 48 := rfl
  have hdigit : (digitValue c).digitChar = c := by
    apply Char.toNat_inj.1
    rw [Nat.toNat_digitChar_of_lt_ten (digitValue_lt hc)]
    omega
  rw [decimal, Nat.toDigits_of_lt_base (digitValue_lt hc), hdigit]

/-- A numeral goes on with the digit that is read next. -/
lemma decimal_append_digit {n : Nat} (hn : 0 < n) {c : Char} (hc : c.isDigit = true) :
    decimal (10 * n + digitValue c) = decimal n ++ [c] := by
  rw [← decimal_digitValue hc]
  exact (Nat.toDigits_append_toDigits (by decide) hn (digitValue_lt hc)).symm

/-- Digits that are read behind a positive number are written behind it again. -/
lemma decimal_foldl {n : Nat} (hn : 0 < n) {digits : List Char}
    (hdigits : ∀ c ∈ digits, c.isDigit = true) :
    decimal (digits.foldl (fun n c => 10 * n + digitValue c) n) = decimal n ++ digits := by
  induction digits generalizing n with
  | nil => simp
  | cons c digits ih =>
    rw [List.foldl_cons, ih (by omega) fun d hd => hdigits d (List.mem_cons_of_mem c hd),
      decimal_append_digit hn (hdigits c List.mem_cons_self), List.append_assoc]
    rfl

/-- Digits that do not begin with a zero are the ones that their number is written with. -/
lemma decimal_natOfDigits {c : Char} {digits : List Char} (hzero : c ≠ '0')
    (hdigits : ∀ d ∈ c :: digits, d.isDigit = true) :
    decimal (natOfDigits (c :: digits)) = c :: digits := by
  have hpos : 0 < digitValue c := by
    have hrange : 48 ≤ c.toNat ∧ c.toNat ≤ 57 :=
      Char.isDigit_iff_toNat.1 (hdigits c List.mem_cons_self)
    have hne : c.toNat ≠ 48 := fun h => hzero (Char.toNat_inj.1 h)
    have hvalue : digitValue c = c.toNat - 48 := rfl
    omega
  have hrest := decimal_foldl hpos fun d hd => hdigits d (List.mem_cons_of_mem c hd)
  rw [natOfDigits, List.foldl_cons, Nat.mul_zero, Nat.zero_add, hrest,
    decimal_digitValue (hdigits c List.mem_cons_self)]
  rfl

/-- Only the numeral of zero begins with a zero. -/
lemma head?_decimal_ne_zero {n : Nat} (hn : 0 < n) : (decimal n).head? ≠ some '0' := by
  induction n using Nat.strongRecOn with
  | ind n ih =>
    rcases Nat.lt_or_ge n 10 with hlt | hge
    · interval_cases n <;> decide
    · have hhead := ih (n / 10) (by omega) (by omega)
      obtain ⟨c, digits, hcons⟩ := List.exists_cons_of_ne_nil (decimal_ne_nil (n / 10))
      unfold decimal at hhead hcons ⊢
      rw [Nat.toDigits_of_base_le (by decide) hge, hcons]
      rw [hcons] at hhead
      exact hhead

/-- A text that denotes a number of limited size consists of digits, behind a plus sign or not. -/
lemma digits_of_parseUnsigned? {bits n : Nat} {s : List Char}
    (h : parseUnsigned? bits s = some n) :
    n < 2 ^ bits ∧ ∃ digits, digits ≠ [] ∧ (∀ c ∈ digits, c.isDigit = true) ∧
      natOfDigits digits = n ∧ (s = digits ∨ s = '+' :: digits) := by
  have hdigits {digits : List Char}
      (hd : (parseDigits? digits).filter (· < Nat.pow 2 bits) = some n) :
      n < 2 ^ bits ∧ digits ≠ [] ∧ (∀ c ∈ digits, c.isDigit = true) ∧ natOfDigits digits = n := by
    obtain ⟨hd, hlt⟩ := Option.filter_eq_some_iff.1 hd
    unfold parseDigits? at hd
    split at hd
    · cases hd
    · rename_i hnone
      simp only [Bool.or_eq_true, List.isEmpty_iff, Bool.not_eq_true', not_or,
        Bool.not_eq_false, List.all_eq_true] at hnone
      exact ⟨of_decide_eq_true hlt, hnone.1, hnone.2, Option.some.inj hd⟩
  unfold parseUnsigned? at h
  dsimp only at h
  split at h
  · obtain ⟨hlt, hne, hall, hvalue⟩ := hdigits h
    exact ⟨hlt, _, hne, hall, hvalue, .inr rfl⟩
  · obtain ⟨hlt, hne, hall, hvalue⟩ := hdigits h
    exact ⟨hlt, _, hne, hall, hvalue, .inl rfl⟩

/-- A numeral is written as it was read unless it has a sign or a zero in front. -/
lemma decimal_eq_iff_of_parseUnsigned? {bits n : Nat} {s : List Char}
    (h : parseUnsigned? bits s = some n) (hn : 0 < n) :
    decimal n = s ↔ s.head? ≠ some '+' ∧ s.head? ≠ some '0' := by
  constructor
  · rintro rfl
    refine ⟨fun hplus => ?_, head?_decimal_ne_zero hn⟩
    exact absurd (isDigit_of_mem_decimal (List.mem_of_mem_head? hplus)) (by decide)
  · rintro ⟨hplus, hzero⟩
    obtain ⟨-, digits, hne, hall, rfl, rfl | rfl⟩ := digits_of_parseUnsigned? h
    · obtain ⟨c, digits, rfl⟩ := List.exists_cons_of_ne_nil hne
      exact decimal_natOfDigits (fun hc => hzero (by rw [hc]; rfl)) hall
    · exact absurd rfl hplus

/-! ### Hexadecimal numerals -/

lemma hex_ne_nil (width n : Nat) : hex width n ≠ [] := by
  intro h
  simp [hex, List.leftpad] at h

lemma digitChar_eq_zero {d : Nat} (hd : d < 16) (h : d.digitChar = '0') : d = 0 := by
  interval_cases d <;> first | rfl | exact absurd h (by decide)

/-- Only zero is written with zeros alone. -/
lemma eq_zero_of_toDigits {n : Nat} (h : ∀ c ∈ Nat.toDigits 16 n, c = '0') : n = 0 := by
  induction n using Nat.strong_induction_on with
  | h n ih =>
    by_cases hn : n < 16
    · rw [Nat.toDigits_of_lt_base hn] at h
      exact digitChar_eq_zero hn (h _ (List.mem_singleton_self _))
    · rw [Nat.toDigits_of_base_le (by decide) (by omega)] at h
      have hhigh : n / 16 = 0 :=
        ih _ (by omega) fun c hc => h c (List.mem_append_left _ hc)
      omega

lemma length_hex {width n : Nat} (hw : 0 < width) (h : n < 16 ^ width) :
    (hex width n).length = width := by
  have := (Nat.length_toDigits_le_iff (b := 16) (by decide) hw).2 h
  simp [hex, List.leftpad]
  omega

/-- A number that fits in `width` digits has zeros in front in a wider numeral. -/
lemma hex_eq_replicate_append (more : Nat) {width n : Nat} (hw : 0 < width)
    (h : n < 16 ^ width) :
    hex (more + width) n = List.replicate more '0' ++ hex width n := by
  have := (Nat.length_toDigits_le_iff (b := 16) (by decide) hw).2 h
  simp only [hex, List.leftpad]
  rw [← List.append_assoc, List.replicate_append_replicate]
  congr 2
  omega

lemma eq_zero_of_hex_eq_replicate {width n k : Nat} (h : hex width n = List.replicate k '0') :
    n = 0 := by
  apply eq_zero_of_toDigits
  intro c hc
  have hmem : c ∈ hex width n := List.mem_append_right _ hc
  rw [h] at hmem
  exact List.eq_of_mem_replicate hmem

/-- The number that hexadecimal digits denote. -/
def natOfHex (digits : List Char) : Nat :=
  digits.foldl (fun n c => 16 * n + (hexValue? c).getD 0) 0

lemma hexValue?_digitChar {d : Nat} (hd : d < 16) : hexValue? d.digitChar = some d := by
  interval_cases d <;> rfl

lemma natOfHex_append_singleton (digits : List Char) (c : Char) :
    natOfHex (digits ++ [c]) = 16 * natOfHex digits + (hexValue? c).getD 0 := by
  simp [natOfHex]

lemma natOfHex_toDigits (n : Nat) : natOfHex (Nat.toDigits 16 n) = n := by
  induction n using Nat.strong_induction_on with
  | h n ih =>
    by_cases hn : n < 16
    · simp [Nat.toDigits_of_lt_base hn, natOfHex, hexValue?_digitChar hn]
    · rw [Nat.toDigits_of_base_le (by decide) (by omega), natOfHex_append_singleton,
        ih _ (by omega), hexValue?_digitChar (Nat.mod_lt _ (by decide)), Option.getD_some]
      omega

/-- Zeros in front do not count. -/
lemma natOfHex_replicate_append (k : Nat) (digits : List Char) :
    natOfHex (List.replicate k '0' ++ digits) = natOfHex digits := by
  have hzeros : natOfHex (List.replicate k '0') = 0 := by
    induction k with
    | zero => rfl
    | succ k ih =>
      rw [List.replicate_succ', natOfHex_append_singleton, ih]
      rfl
  rw [natOfHex, List.foldl_append]
  exact congrArg (digits.foldl _) hzeros

/-- Different numbers are written differently, whatever the width. -/
lemma hex_injective (width : Nat) : Function.Injective (hex width) := by
  intro m n h
  have hvalue : ∀ n, natOfHex (hex width n) = n := fun n => by
    rw [hex, List.leftpad, natOfHex_replicate_append, natOfHex_toDigits]
  rw [← hvalue m, h, hvalue]

end CouchLoad.Text
