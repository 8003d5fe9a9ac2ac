import CouchLoad.Couch.Revision
import CouchLoad.Proofs.Text.Numeral

/-!
# Revisions as text

A revision with a generation of 64 bits and a hash is read back from its text, also where that text
is a JSON value. Every text that is read denotes such a revision, but the generation may be written
with a sign or with zeros in front. The hash of a revision that a client makes up never is the
numeral of a counter of 64 bits.
-/

namespace CouchLoad

open Text

/-- Revisions that survive being written as text. -/
structure Revision.Readable (rev : Revision) : Prop where
  positive : 0 < rev.generation
  generation : rev.generation < 2 ^ 64
  hash : rev.hash ≠ ""

lemma Entropy.Uuid.simple_ne_empty (u : Entropy.Uuid) : u.simple ≠ "" := by
  intro h
  have := congrArg String.toList h
  simp [simple, digits] at this
  exact Text.hex_ne_nil _ _ this.1

namespace Revision

/-- A sibling is readable whatever the hash of the revision is. -/
lemma readable_sibling {rev : Revision} (hpositive : 0 < rev.generation)
    (hgeneration : rev.generation < 2 ^ 64) (u : Entropy.Uuid) :
    (rev.conflictingSibling u).Readable :=
  ⟨hpositive, hgeneration, u.simple_ne_empty⟩

/-- Within 64 bits a revision is read back from its text. -/
lemma parse?_display {r : Revision} (hpos : 0 < r.generation) (hlt : r.generation < 2 ^ 64)
    (hash : r.hash ≠ "") : parse? r.display = some r := by
  have htext : r.display.toList = decimal r.generation ++ '-' :: r.hash.toList := by
    simp [display]
  have hmark : '-' ∉ decimal r.generation := by
    intro h
    exact absurd (isDigit_of_mem_decimal h) (by decide)
  unfold parse?
  rw [htext, splitAtFirst?_append hmark]
  simp [parseUnsigned?_decimal hlt, Nat.ne_of_gt hpos, hash]

/-- The part of a text that is read as the generation. -/
def numeral (s : String) : List Char :=
  s.toList.takeWhile (· ≠ '-')

/-- What a text that denotes a revision is made of. -/
lemma parts_of_parse? {s : String} {r : Revision} (h : parse? s = some r) :
    s.toList = numeral s ++ '-' :: r.hash.toList ∧
      parseUnsigned? 64 (numeral s) = some r.generation ∧ 0 < r.generation ∧ r.hash ≠ "" := by
  unfold parse? at h
  obtain ⟨⟨before, after⟩, hsplit, h⟩ := Option.bind_eq_some_iff.1 h
  obtain ⟨generation, hgeneration, h⟩ := Option.bind_eq_some_iff.1 h
  have hwhole := eq_of_splitAtFirst? hsplit
  have hmark := notMem_of_splitAtFirst? hsplit
  have hnumeral : numeral s = before := by
    rw [numeral, hwhole, List.takeWhile_append_of_pos]
    · simp
    · exact fun c hc => decide_eq_true fun heq => hmark (heq ▸ hc)
  split at h
  · cases h
  · rename_i hvalid
    obtain rfl := Option.some.inj h
    simp only [Bool.or_eq_true, decide_eq_true_eq, List.isEmpty_iff, not_or] at hvalid
    rw [hnumeral, String.toList_ofList]
    exact ⟨hwhole, hgeneration, Nat.pos_of_ne_zero hvalid.1, by simpa using hvalid.2⟩

lemma readable_of_parse? {s : String} {r : Revision} (h : parse? s = some r) : r.Readable := by
  obtain ⟨-, hgeneration, hpositive, hhash⟩ := parts_of_parse? h
  exact ⟨hpositive, (digits_of_parseUnsigned? hgeneration).1, hhash⟩

/-- A revision is written as it was read unless its generation has a sign or a zero in front. -/
lemma display_eq_iff_of_parse? {s : String} {r : Revision} (h : parse? s = some r) :
    r.display = s ↔ (numeral s).head? ≠ some '+' ∧ (numeral s).head? ≠ some '0' := by
  obtain ⟨hwhole, hgeneration, hpositive, -⟩ := parts_of_parse? h
  have htext : r.display.toList = decimal r.generation ++ '-' :: r.hash.toList := by
    simp [display]
  rw [← decimal_eq_iff_of_parseUnsigned? hgeneration hpositive, ← String.toList_inj, htext, hwhole,
    List.append_left_inj]

lemma ofJson?_eq_some_iff {v : Json} {r : Revision} :
    ofJson? v = some r ↔ ∃ text, v = .string text ∧ parse? text = some r := by
  cases v <;> simp [ofJson?]

lemma display_injective {r s : Revision} (h : r.display = s.display) : r = s := by
  have htext : decimal r.generation ++ '-' :: r.hash.toList =
      decimal s.generation ++ '-' :: s.hash.toList := by
    have := congrArg String.toList h
    simpa [display] using this
  have hmark : ∀ n, '-' ∉ decimal n := by
    intro n h
    exact absurd (isDigit_of_mem_decimal h) (by decide)
  have hsplit := congrArg (splitAtFirst? '-') htext
  rw [splitAtFirst?_append (hmark _), splitAtFirst?_append (hmark _)] at hsplit
  simp only [Option.some.injEq, Prod.mk.injEq] at hsplit
  obtain ⟨hgen, hhash⟩ := hsplit
  cases r
  cases s
  simp only [mk.injEq]
  exact ⟨decimal_injective hgen, String.toList_inj.1 hhash⟩

end Revision

namespace Entropy

/-- The version of a random identifier stands among its first sixteen digits, so these are not
zeros alone. -/
lemma Uuid.simple_ne_counter (u : Uuid) {n : Nat} (h : n < 2 ^ 64) :
    u.simple ≠ String.ofList (hex 32 n) := by
  intro heq
  have hdigits : u.digits = hex 32 n := String.ofList_inj.1 heq
  have hcounter : hex (16 + 16) n = List.replicate 16 '0' ++ hex 16 n :=
    hex_eq_replicate_append 16 (by decide) (by omega)
  rw [hcounter] at hdigits
  set high := (u.high &&& 0xffffffffffff0fff) ||| 0x4000 with hhigh
  have hlen : (hex 16 high.toNat).length = 16 := length_hex (by decide) high.toNat_lt
  have hzeros : hex 16 high.toNat = List.replicate 16 '0' := by
    have := congrArg (List.take 16) hdigits
    rw [List.take_left' (by simp)] at this
    rw [← this]
    exact (List.take_left' hlen).symm
  have hzero : high.toNat = 0 := eq_zero_of_hex_eq_replicate hzeros
  have hbit : high.toNat.testBit 14 = true := by
    rw [hhigh, UInt64.toNat_or, Nat.testBit_or]
    simp
    right
    decide
  rw [hzero] at hbit
  exact absurd hbit (by decide)

end Entropy

end CouchLoad
