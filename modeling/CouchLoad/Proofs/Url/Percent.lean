import CouchLoad.Url.Percent
import CouchLoad.Text.Split
import CouchLoad.Proofs.Text.Numeral
import Mathlib.Data.List.Basic

/-!
# Percent forms read back

What is written in percent form is read back from it, and so is what is written in a form. Of the
characters that may not stand in some part of a URL none does, but for those that percent forms
consist of.
-/

namespace CouchLoad

open Text

namespace Text

lemma utf8Encode_append (s t : List Char) :
    utf8Encode (s ++ t) = utf8Encode s ++ utf8Encode t := List.flatMap_append

/-- Different texts have different UTF-8 forms. -/
lemma utf8Encode_injective : Function.Injective utf8Encode := by
  intro s t h
  have hbytes : s.utf8Encode = t.utf8Encode := congrArg List.toByteArray h
  have htext : String.ofList s = String.ofList t := String.toByteArray_inj.1 (by simpa using hbytes)
  exact String.ofList_injective htext

end Text

namespace Url

variable {keep : Char → Bool} {c : Char}

/-! ### Bytes -/

lemma hexValue?_toUpper {d : Nat} (hd : d < 16) : hexValue? d.digitChar.toUpper = some d := by
  interval_cases d <;> rfl

/-- The percent form of a byte. -/
lemma percentByte_eq (b : UInt8) :
    percentByte b =
      ['%', (b.toNat / 16).digitChar.toUpper, (b.toNat % 16).digitChar.toUpper] := by
  have hb : b.toNat < 256 := b.toNat_lt
  unfold percentByte hex
  by_cases hsmall : b.toNat < 16
  · rw [Nat.toDigits_of_lt_base hsmall, Nat.div_eq_of_lt hsmall, Nat.mod_eq_of_lt hsmall]
    rfl
  · rw [Nat.toDigits_of_base_le (by decide) (by omega), Nat.toDigits_of_lt_base (by omega)]
    rfl

lemma percentDecode_percentByte (b : UInt8) (s : List Char) :
    percentDecode (percentByte b ++ s) = b :: percentDecode s := by
  have hb : b.toNat < 256 := b.toNat_lt
  rw [percentByte_eq]
  simp only [List.cons_append, List.nil_append, percentDecode,
    hexValue?_toUpper (show b.toNat / 16 < 16 by omega),
    hexValue?_toUpper (show b.toNat % 16 < 16 by omega), Nat.div_add_mod]
  simp

lemma percentDecode_cons (h : c ≠ '%') (s : List Char) :
    percentDecode (c :: s) = utf8Encode [c] ++ percentDecode s := by
  rw [percentDecode]
  intro a b t heq
  exact absurd heq h

lemma percentDecode_percentBytes (bytes : List UInt8) (s : List Char) :
    percentDecode (bytes.flatMap percentByte ++ s) = bytes ++ percentDecode s := by
  induction bytes with
  | nil => rfl
  | cons b bytes ih =>
    rw [List.flatMap_cons, List.append_assoc, percentDecode_percentByte, ih]
    rfl

/-- What stands in percent forms. -/
def percentMarks : List Char :=
  "%0123456789ABCDEF".toList

lemma mem_percentMarks {b : UInt8} (h : c ∈ percentByte b) : c ∈ percentMarks := by
  have hdigit : ∀ d < 16, d.digitChar.toUpper ∈ percentMarks := by decide
  have hb : b.toNat < 256 := b.toNat_lt
  rw [percentByte_eq] at h
  simp only [List.mem_cons, List.not_mem_nil, or_false] at h
  rcases h with rfl | rfl | rfl
  · decide
  · exact hdigit _ (by omega)
  · exact hdigit _ (by omega)

/-! ### Texts -/

lemma percentEncode_cons (keep : Char → Bool) (c : Char) (s : List Char) :
    percentEncode keep (c :: s) = percentEncode keep [c] ++ percentEncode keep s := by
  simp [percentEncode]

/-- A text is read back from its percent form, unless percent signs are kept. -/
lemma percentDecode_percentEncode (hkeep : keep '%' = false) (s t : List Char) :
    percentDecode (percentEncode keep s ++ t) = utf8Encode s ++ percentDecode t := by
  induction s with
  | nil => rfl
  | cons c s ih =>
    have hone : ∀ u, percentDecode (percentEncode keep [c] ++ u) =
        utf8Encode [c] ++ percentDecode u := by
      intro u
      by_cases hc : keep c = true
      · have hne : c ≠ '%' := by
          rintro rfl
          rw [hkeep] at hc
          cases hc
        simpa [percentEncode, hc] using percentDecode_cons hne u
      · simpa [percentEncode, hc] using percentDecode_percentBytes (utf8Encode [c]) u
    rw [percentEncode_cons, List.append_assoc, hone, ih, ← List.append_assoc,
      ← utf8Encode_append]
    rfl

lemma percentDecode_percentEncode' (hkeep : keep '%' = false) (s : List Char) :
    percentDecode (percentEncode keep s) = utf8Encode s := by
  simpa [percentDecode] using percentDecode_percentEncode hkeep s []

/-- What stands in a text that has been encoded. -/
lemma mem_of_mem_percentEncode {s : List Char} (h : c ∈ percentEncode keep s) :
    c ∈ s ∧ keep c = true ∨ c ∈ percentMarks := by
  obtain ⟨d, hd, hmem⟩ := List.mem_flatMap.1 h
  split at hmem
  · rename_i hkeep
    rw [List.mem_singleton.1 hmem]
    exact Or.inl ⟨hd, hkeep⟩
  · obtain ⟨b, -, hb⟩ := List.mem_flatMap.1 hmem
    exact Or.inr (mem_percentMarks hb)

/-- A character that is not kept does not stand in a text that has been encoded. -/
lemma notMem_percentEncode (hkeep : keep c = false) (hmarks : c ∉ percentMarks) (s : List Char) :
    c ∉ percentEncode keep s := by
  intro h
  rcases mem_of_mem_percentEncode h with ⟨-, h⟩ | h
  · rw [hkeep] at h
    cases h
  · exact hmarks h

/-! ### Forms -/

/-- The bytes of a name or a value of a form. -/
def formDecode (s : List Char) : List UInt8 :=
  percentDecode (s.map fun c => if c = '+' then ' ' else c)

/-- A name or a value is read back from its form. -/
lemma formDecode_formEncode (s : List Char) : formDecode (formEncode s) = utf8Encode s := by
  have hplus : ∀ s : List Char, (percentEncode inForm s).map (fun c => if c = '+' then ' ' else c) =
      percentEncode inForm s := by
    intro s
    refine (List.map_congr_left fun c hc => if_neg ?_).trans (List.map_id _)
    rintro rfl
    exact notMem_percentEncode (by decide) (by decide) s hc
  unfold formDecode
  induction s with
  | nil => rfl
  | cons c s ih =>
    unfold formEncode at ih ⊢
    rw [List.flatMap_cons, List.map_append]
    by_cases hc : c = ' '
    · subst hc
      rw [if_pos rfl, List.map_singleton, if_pos rfl, List.singleton_append,
        percentDecode_cons (by decide), ih, ← utf8Encode_append]
      rfl
    · rw [if_neg hc, hplus, percentDecode_percentEncode (by decide), ih, ← utf8Encode_append]
      rfl

lemma formEncode_injective : Function.Injective formEncode := by
  intro s t h
  apply utf8Encode_injective
  rw [← formDecode_formEncode s, h, formDecode_formEncode]

/-- The marks between names, values and pairs do not stand in them. -/
lemma notMem_formEncode (hkeep : inForm c = false) (hmarks : c ∉ '+' :: percentMarks)
    (s : List Char) : c ∉ formEncode s := by
  rw [List.mem_cons, not_or] at hmarks
  intro h
  obtain ⟨d, -, hmem⟩ := List.mem_flatMap.1 h
  split at hmem
  · exact hmarks.1 (List.mem_singleton.1 hmem)
  · exact notMem_percentEncode hkeep hmarks.2 [d] hmem

/-- The form of one pair. -/
def formPair (pair : String × String) : List Char :=
  formEncode pair.1.toList ++ '=' :: formEncode pair.2.toList

lemma formPair_injective : Function.Injective formPair := by
  rintro ⟨name, value⟩ ⟨name', value'⟩ h
  have hsplit := congrArg (splitAtFirst? '=') h
  unfold formPair at hsplit
  rw [splitAtFirst?_append (notMem_formEncode (by decide) (by decide) _),
    splitAtFirst?_append (notMem_formEncode (by decide) (by decide) _)] at hsplit
  simp only [Option.some.injEq, Prod.mk.injEq] at hsplit ⊢
  exact ⟨String.toList_inj.1 (formEncode_injective hsplit.1),
    String.toList_inj.1 (formEncode_injective hsplit.2)⟩

lemma notMem_formPair (pair : String × String) : '&' ∉ formPair pair := by
  unfold formPair
  rw [List.mem_append, List.mem_cons, not_or, not_or]
  exact ⟨notMem_formEncode (by decide) (by decide) _, by decide,
    notMem_formEncode (by decide) (by decide) _⟩

lemma formPairs_cons (pair : String × String) (pairs : List (String × String)) :
    formPairs (pair :: pairs) = formPair pair ++ (pairs.map formPair).flatMap ('&' :: ·) := by
  induction pairs generalizing pair with
  | nil => simp [formPairs, formPair]
  | cons next pairs ih =>
    rw [List.map_cons, List.flatMap_cons, List.cons_append, ← ih next]
    simp [formPairs, formPair, List.intercalate]

lemma formPairs_ne_nil {pairs : List (String × String)} (h : pairs ≠ []) :
    formPairs pairs ≠ [] := by
  obtain ⟨pair, rest, rfl⟩ := List.exists_cons_of_ne_nil h
  rw [formPairs_cons]
  simp [formPair]

/-- Different lists of pairs are written differently. -/
lemma formPairs_injective : Function.Injective formPairs := by
  intro l m h
  have hcut : ∀ pair pairs, splitAtEach '&' (formPairs (pair :: pairs)) =
      (pair :: pairs).map formPair := by
    intro pair pairs
    rw [formPairs_cons]
    refine splitAtEach_flatMap (notMem_formPair pair) fun p hp => ?_
    obtain ⟨other, -, rfl⟩ := List.mem_map.1 hp
    exact notMem_formPair other
  cases l with
  | nil =>
    by_contra hne
    exact formPairs_ne_nil (Ne.symm hne) h.symm
  | cons pair pairs =>
    cases m with
    | nil => exact absurd h (formPairs_ne_nil (List.cons_ne_nil _ _))
    | cons pair' pairs' =>
      have hsplit := congrArg (splitAtEach '&') h
      rw [hcut, hcut] at hsplit
      exact List.map_injective_iff.2 formPair_injective hsplit

end Url

end CouchLoad
