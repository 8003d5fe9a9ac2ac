import CouchLoad.Entropy.Draw
import CouchLoad.Entropy.Uuid
import Mathlib.Tactic.Common
import Mathlib.Tactic.Linarith

/-!
# What is drawn

Every draw takes words from the front of a source and leaves the others as they are. Whatever the
words are, what is drawn from them lies in the range that was asked for.
-/

namespace CouchLoad.Entropy

/-! ### Taking words -/

namespace Source

/-- A source that some more words have been taken from. -/
def Reaches (s t : Source) : Prop :=
  ∃ n, t = { s with taken := s.taken + n }

variable {s t u : Source}

lemma Reaches.refl (s : Source) : s.Reaches s := ⟨0, rfl⟩

lemma Reaches.trans (h : s.Reaches t) (h' : t.Reaches u) : s.Reaches u := by
  obtain ⟨m, rfl⟩ := h
  obtain ⟨n, rfl⟩ := h'
  exact ⟨m + n, by simp [Nat.add_assoc]⟩

lemma reaches_next (s : Source) : s.Reaches s.next.2 := ⟨1, rfl⟩

end Source

lemma reaches_draw (width : Width) (s : Source) : s.Reaches (width.draw s).2 := s.reaches_next

lemma reaches_uuid (s : Source) : s.Reaches (Uuid.draw s).2 :=
  s.reaches_next.trans s.next.2.reaches_next

lemma reaches_below (width : Width) (n : Nat) (s : Source) : s.Reaches (below width n s).2 := by
  have hfirst := reaches_draw width s
  have hsecond := hfirst.trans (reaches_draw width _)
  unfold below
  dsimp only
  split
  · exact hfirst
  · split
    · exact hsecond
    · exact hfirst

lemma reaches_integer (low high : Int) (s : Source) : s.Reaches (integer low high s).2 := by
  have h := reaches_below .full (high - low + 1).toNat s
  unfold integer
  dsimp only
  split <;> exact h

lemma reaches_letterIndex (fuel : Nat) (s : Source) : s.Reaches (letterIndex fuel s).2 := by
  induction fuel generalizing s with
  | zero => exact s.reaches_next
  | succ fuel ih =>
    have hfirst := reaches_draw .half s
    unfold letterIndex
    dsimp only
    split
    · exact hfirst
    · exact hfirst.trans (ih _)

lemma reaches_letters (k : Nat) (s : Source) : s.Reaches (letters k s).2 := by
  induction k generalizing s with
  | zero => exact .refl s
  | succ k ih => exact (reaches_letterIndex s.remaining s).trans (ih _)

lemma reaches_textLength (s : Source) : s.Reaches (textLength s).2 :=
  reaches_below .half (longestText - shortestText + 1) s

lemma reaches_pick {α : Type} (options : List α) (s : Source) :
    s.Reaches (pick options s).2 := by
  unfold pick
  split
  · exact .refl s
  · exact reaches_below _ _ s

/-! ### Ranges -/

lemma draw_lt (width : Width) (s : Source) : (width.draw s).1 < width.size := by
  have hword : s.next.1.toNat < 0x10000000000000000 := s.next.1.toNat_lt
  cases width with
  | half => exact Nat.div_lt_of_lt_mul hword
  | full => exact hword

/-- A word that is scaled down stays below the bound, and so it does with the carry. -/
lemma scaled_lt {size n x z : Nat} (hx : x < size) (hz : z < n) :
    (x * n + z) / size < n := by
  apply Nat.div_lt_of_lt_mul
  calc x * n + z < x * n + n := Nat.add_lt_add_left hz _
    _ = (x + 1) * n := (Nat.succ_mul x n).symm
    _ ≤ size * n := Nat.mul_le_mul_right n hx

theorem below_lt (width : Width) {n : Nat} (hn : 0 < n) (s : Source) :
    (below width n s).1 < n := by
  have hsize : 0 < width.size := by cases width <;> decide
  have hx := draw_lt width s
  have hy := draw_lt width (width.draw s).2
  unfold below
  dsimp only
  split
  · rename_i h
    rwa [h]
  · split
    · -- the carry comes in where the sum of both parts passes the next whole number
      set z := (width.draw (width.draw s).2).1 * n / width.size
      have hz : z < n := scaled_lt (z := 0) hy hn
      have hsum := scaled_lt hx hz
      have hlow : (width.draw s).1 * n / width.size < n := scaled_lt (z := 0) hx hn
      split
      · rename_i hcarry
        refine lt_of_le_of_lt ?_ hsum
        rw [Nat.le_div_iff_mul_le hsize, Nat.succ_mul]
        have hparts := Nat.div_add_mod' ((width.draw s).1 * n) width.size
        omega
      · exact hlow
    · exact scaled_lt (z := 0) hx hn

/-- An integer that is drawn lies between the bounds, if these are numbers of 64 bits. -/
theorem integer_mem {low high : Int} (horder : low ≤ high) (hlow : -2 ^ 63 ≤ low)
    (hhigh : high < 2 ^ 63) (s : Source) :
    low ≤ (integer low high s).1 ∧ (integer low high s).1 ≤ high := by
  have hcount : 0 < (high - low + 1).toNat := by omega
  have hx := below_lt .full hcount s
  have hsize : Width.full.size = 2 ^ 64 := rfl
  unfold integer
  dsimp only
  split
  · split <;> constructor <;> omega
  · constructor <;> omega

lemma letterIndex_lt (fuel : Nat) (s : Source) : (letterIndex fuel s).1 < alphabet.length := by
  induction fuel generalizing s with
  | zero => exact Nat.zero_lt_succ _
  | succ fuel ih =>
    unfold letterIndex
    dsimp only
    split
    · assumption
    · exact ih _

lemma isAlphanum_of_mem_alphabet {c : Char} (h : c ∈ alphabet) : c.isAlphanum = true := by
  have hall : alphabet.all Char.isAlphanum = true := by decide
  exact List.all_eq_true.1 hall c h

lemma isAlphanum_letter (s : Source) : (letter s).1.isAlphanum = true := by
  apply isAlphanum_of_mem_alphabet
  have h : (letter s).1 = alphabet.getD (letterIndex s.remaining s).1 'A' := rfl
  rw [h, List.getD_eq_getElem?_getD, List.getElem?_eq_getElem (letterIndex_lt _ s)]
  exact List.getElem_mem _

lemma length_letters (k : Nat) (s : Source) : (letters k s).1.length = k := by
  induction k generalizing s with
  | zero => rfl
  | succ k ih => exact congrArg Nat.succ (ih _)

lemma isAlphanum_of_mem_letters {k : Nat} {s : Source} {c : Char} (h : c ∈ (letters k s).1) :
    c.isAlphanum = true := by
  induction k generalizing s with
  | zero => cases h
  | succ k ih =>
    rcases List.mem_cons.1 h with rfl | h
    · exact isAlphanum_letter s
    · exact ih h

lemma textLength_mem (s : Source) :
    shortestText ≤ (textLength s).1 ∧ (textLength s).1 ≤ longestText := by
  have hx := below_lt .half (n := longestText - shortestText + 1) (by decide) s
  have hlength : (textLength s).1 =
    shortestText + (below .half (longestText - shortestText + 1) s).1 := rfl
  have hbounds : shortestText = 10 ∧ longestText = 999 := ⟨rfl, rfl⟩
  omega

/-- An option is picked wherever there are options. -/
lemma pick_mem {α : Type} {options : List α} (h : options ≠ []) (s : Source) :
    ∃ option ∈ options, (pick options s).1 = some option := by
  have hx := below_lt (.counting options.length) (List.length_pos_iff.2 h) s
  refine ⟨_, List.getElem_mem hx, ?_⟩
  unfold pick
  rw [if_neg (by simpa using h)]
  exact List.getElem?_eq_getElem hx

/-! ### Identifiers -/

namespace Uuid

/-- Draw some identifiers, one behind the other. -/
def drawMany : Nat → Source → List Uuid × Source
  | 0, s => ([], s)
  | n + 1, s =>
    let (u, s) := draw s
    let (us, s) := drawMany n s
    (u :: us, s)

@[simp] lemma length_drawMany (n : Nat) (s : Source) : (drawMany n s).1.length = n := by
  induction n generalizing s with
  | zero => rfl
  | succ n ih => exact congrArg Nat.succ (ih _)

/-- Identifiers may be drawn in two portions. -/
lemma drawMany_add (m n : Nat) (s : Source) :
    (drawMany (m + n) s).1 = (drawMany m s).1 ++ (drawMany n (drawMany m s).2).1 := by
  induction m generalizing s with
  | zero => simp [drawMany]
  | succ m ih => simp [drawMany, Nat.add_right_comm m 1 n, ih]

end Uuid

end CouchLoad.Entropy
