import CouchLoad.Text.Blank
import CouchLoad.Text.Utf8
import Mathlib.Data.List.DropRight
import Mathlib.Data.List.TakeWhile

/-!
# Where texts are cut

A text is cut behind a run of characters of one class, at the blanks around it, or at a place that
is given by the number of bytes before it.
-/

namespace CouchLoad.Text

/-! ### Runs -/

/-- A run of characters of one class ends where the text behind it does not go on with it. -/
lemma span_append {α : Type} {p : α → Bool} {run rest : List α} (hrun : ∀ c ∈ run, p c)
    (hrest : ∀ c ∈ rest.head?, p c = false) :
    (run ++ rest).takeWhile p = run ∧ (run ++ rest).dropWhile p = rest := by
  rw [List.takeWhile_append_of_pos hrun, List.dropWhile_append_of_pos hrun]
  cases rest with
  | nil => simp
  | cons c rest => simp [hrest c rfl]

/-- Every text begins with a run of characters of a class, which the rest does not go on with. -/
lemma exists_span {α : Type} (p : α → Bool) (s : List α) :
    ∃ run rest, s = run ++ rest ∧ (∀ c ∈ run, p c) ∧ ∀ c ∈ rest.head?, p c = false := by
  refine ⟨s.takeWhile p, s.dropWhile p, List.takeWhile_append_dropWhile.symm,
    fun c hc => List.mem_takeWhile_imp hc, ?_⟩
  intro c hc
  have hnot := List.head?_dropWhile_not p s
  rw [Option.mem_def.1 hc] at hnot
  exact hnot

/-! ### Blanks -/

lemma trimStart_append {blanks : List Char} (h : ∀ c ∈ blanks, isBlank c) (s : List Char) :
    trimStart (blanks ++ s) = trimStart s :=
  List.dropWhile_append_of_pos h

lemma trimStart_of_head {s : List Char} (h : ∀ c ∈ s.head?, isBlank c = false) :
    trimStart s = s := by
  have hnone : ∀ c ∈ ([] : List Char), isBlank c := by simp
  exact (span_append hnone h).2

lemma trimEnd_prefix_self (s : List Char) : trimEnd s <+: s := List.rdropWhile_prefix isBlank s

lemma trimEnd_eq_nil_iff {s : List Char} : trimEnd s = [] ↔ ∀ c ∈ s, isBlank c :=
  List.rdropWhile_eq_nil_iff

lemma trimEnd_concat (s : List Char) (c : Char) :
    trimEnd (s ++ [c]) = if isBlank c then trimEnd s else s ++ [c] :=
  List.rdropWhile_concat isBlank s c

/-- Nothing up to a character that is not blank is dropped from the end of a text. -/
lemma trimEnd_append {c : Char} (h : isBlank c = false) (front behind : List Char) :
    trimEnd (front ++ c :: behind) = front ++ c :: trimEnd behind := by
  induction behind using List.reverseRecOn with
  | nil =>
    rw [trimEnd_concat, if_neg (by simp [h])]
    rfl
  | append_singleton behind d ih =>
    rw [← List.cons_append, ← List.append_assoc, trimEnd_concat, trimEnd_concat]
    split
    · exact ih
    · simp

/-- A text is blank, or it begins with blanks and a character that is not blank. -/
lemma trim_cases (s : List Char) :
    (∀ c ∈ s, isBlank c) ∧ trim s = [] ∨ ∃ blanks c rest, s = blanks ++ c :: rest ∧
      (∀ c ∈ blanks, isBlank c) ∧ isBlank c = false ∧ trim s = c :: trimEnd rest := by
  obtain ⟨blanks, rest, rfl, hblanks, hrest⟩ := exists_span isBlank s
  cases rest with
  | nil =>
    rw [List.append_nil]
    refine .inl ⟨hblanks, ?_⟩
    have hstart : trimStart blanks = [] := List.dropWhile_eq_nil_iff.2 hblanks
    rw [trim, hstart]
    rfl
  | cons c rest =>
    have hc : isBlank c = false := hrest c rfl
    refine .inr ⟨blanks, c, rest, rfl, hblanks, hc, ?_⟩
    rw [trim, trimStart_append hblanks, trimStart_of_head hrest]
    exact trimEnd_append hc [] rest

lemma trim_eq_nil_iff {s : List Char} : trim s = [] ↔ ∀ c ∈ s, isBlank c := by
  rcases trim_cases s with ⟨hall, hnil⟩ | ⟨blanks, c, rest, rfl, -, hc, htrim⟩
  · exact iff_of_true hnil hall
  · refine iff_of_false (by simp [htrim]) fun hall => ?_
    rw [hall c (by simp)] at hc
    cases hc

lemma trim_trim (s : List Char) : trim (trim s) = trim s := by
  rcases trim_cases s with ⟨-, hnil⟩ | ⟨blanks, c, rest, rfl, -, hc, htrim⟩
  · rw [hnil]
    rfl
  · have hagain : trimEnd (trimEnd rest) = trimEnd rest := List.rdropWhile_idempotent isBlank rest
    rw [htrim, trim, trimStart_of_head (by simpa using hc)]
    exact (trimEnd_append hc [] _).trans (congrArg (c :: ·) hagain)

/-! ### Bytes -/

lemma foldl_utf8Size (n : Nat) (s : List Char) :
    s.foldl (fun n c => n + c.utf8Size) n = n + utf8Length s := by
  induction s generalizing n with
  | nil => rfl
  | cons c s ih =>
    rw [utf8Length, List.foldl_cons, List.foldl_cons, ih, ih, Nat.zero_add, Nat.add_assoc]

lemma utf8Length_cons (c : Char) (s : List Char) :
    utf8Length (c :: s) = c.utf8Size + utf8Length s := by
  rw [utf8Length, List.foldl_cons, foldl_utf8Size, Nat.zero_add]

lemma utf8Length_append (front behind : List Char) :
    utf8Length (front ++ behind) = utf8Length front + utf8Length behind := by
  rw [utf8Length, List.foldl_append, foldl_utf8Size]
  rfl

lemma splitAtByte?_utf8Length (front behind : List Char) :
    splitAtByte? (utf8Length front) (front ++ behind) = some (front, behind) := by
  induction front with
  | nil => cases behind <;> rfl
  | cons c front ih =>
    have hc := c.utf8Size_pos
    rw [utf8Length_cons, List.cons_append, splitAtByte?, if_neg (by omega), if_neg (by omega),
      Nat.add_sub_cancel_left, ih]
    rfl

end CouchLoad.Text
