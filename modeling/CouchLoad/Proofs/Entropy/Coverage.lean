import CouchLoad.Entropy.Words
import CouchLoad.Proofs.Entropy.Draws

/-!
# What can be drawn

Every value of a range can be drawn, and no other one, although the carry may add one to a word that
has been scaled down. Drawn in words, a number is the same as without the bounds of a word: the
carry always has a place, also in a range of all words.
-/

namespace CouchLoad.Entropy

/-! ### Draws in words -/

lemma Width.size_eq (width : Width) : width.size = 2 ^ width.bits := by
  cases width <;> rfl

lemma word_eq_draw (width : Width) (s : Source) :
    (width.word s).1.toNat = (width.draw s).1 ∧ (width.word s).2 = (width.draw s).2 := by
  cases width with
  | full => exact ⟨rfl, rfl⟩
  | half =>
    refine ⟨?_, rfl⟩
    have hword : s.next.1.toNat < 2 ^ 64 := s.next.1.toNat_lt
    simp only [Width.word, Width.draw, Width.bits, BitVec.toNat_setWidth, BitVec.toNat_ushiftRight,
      UInt64.toNat_toBitVec, Nat.shiftRight_eq_div_pow]
    omega

/-- The two words of a product are its quotient and its remainder. -/
lemma toNat_wideProduct {n : Nat} (x y : BitVec n) :
    (wideProduct x y).1.toNat = x.toNat * y.toNat / 2 ^ n ∧
      (wideProduct x y).2.toNat = x.toNat * y.toNat % 2 ^ n := by
  have hx : x.toNat < 2 ^ n := x.isLt
  have hy : y.toNat < 2 ^ n := y.isLt
  have hproduct : x.toNat * y.toNat < 2 ^ n * 2 ^ n := Nat.mul_lt_mul'' hx hy
  have hwide : 2 ^ n ≤ 2 ^ (n + n) := Nat.pow_le_pow_right (by decide) (Nat.le_add_right n n)
  have hwhole : (x.setWidth (n + n) * y.setWidth (n + n)).toNat = x.toNat * y.toNat := by
    rw [BitVec.toNat_mul, BitVec.toNat_setWidth, BitVec.toNat_setWidth,
      Nat.mod_eq_of_lt (hx.trans_le hwide), Nat.mod_eq_of_lt (hy.trans_le hwide),
      Nat.mod_eq_of_lt (by rwa [Nat.pow_add])]
  constructor
  · have hquotient : x.toNat * y.toNat / 2 ^ n < 2 ^ n := Nat.div_lt_of_lt_mul hproduct
    rw [wideProduct, BitVec.toNat_setWidth, BitVec.toNat_ushiftRight, hwhole,
      Nat.shiftRight_eq_div_pow, Nat.mod_eq_of_lt hquotient]
  · rw [wideProduct, BitVec.toNat_setWidth, hwhole]

lemma successor?_eq {n : Nat} {x : BitVec n} (h : x.toNat + 1 < 2 ^ n) :
    ∃ y, successor? x = some y ∧ y.toNat = x.toNat + 1 := by
  have hone : (1 : BitVec n).toNat = 1 :=
    Nat.mod_eq_of_lt ((Nat.le_add_left 1 x.toNat).trans_lt h)
  have hfits : x.uaddOverflow 1 = false := by
    rw [BitVec.uaddOverflow, hone]
    exact decide_eq_false (by omega)
  refine ⟨x + 1, by rw [successor?, hfits]; rfl, ?_⟩
  rw [BitVec.toNat_add, hone, Nat.mod_eq_of_lt h]

/-- What is cut off a word hides a bias in one word of the source just if it does in the number. -/
lemma rest_gt_iff (width : Width) {n : Nat} (hpos : 0 < n) (hn : n < width.size)
    {size : BitVec width.bits} (hsize : size.toNat = n) (s : Source) :
    (wideProduct (width.word s).1 size).2 > -size ↔
      (width.draw s).1 * n % width.size > width.size - n := by
  have hneg : (-size).toNat = width.size - n := by
    rw [BitVec.toNat_neg, hsize, ← width.size_eq, Nat.mod_eq_of_lt (by omega)]
  rw [gt_iff_lt, BitVec.lt_def, hneg, (toNat_wideProduct _ _).2, (word_eq_draw width s).1, hsize,
    ← width.size_eq]

/-- A second word carries where the sum does not fit into a word. -/
lemma carry_iff (width : Width) {n : Nat} {size : BitVec width.bits} (hsize : size.toNat = n)
    (s t : Source) :
    (wideProduct (width.word s).1 size).2.uaddOverflow (wideProduct (width.word t).1 size).1 =
        true ↔
      (width.draw s).1 * n % width.size + (width.draw t).1 * n / width.size ≥ width.size := by
  rw [BitVec.uaddOverflow, decide_eq_true_eq, (toNat_wideProduct _ _).2, (toNat_wideProduct _ _).1,
    (word_eq_draw width s).1, (word_eq_draw width t).1, hsize, width.size_eq]

/-- A number of a range that does not take all words is drawn in words just as without them. The
carry fits, since the number it leads to is still below the size. -/
lemma belowWords?_of_lt (width : Width) {n : Nat} (hpos : 0 < n) (hn : n < width.size)
    {size : BitVec width.bits} (hsize : size.toNat = n) (s : Source) :
    ∃ x, belowWords? width size s = (some x, (below width n s).2) ∧
      x.toNat = (below width n s).1 := by
  have hlt := below_lt width hpos s
  have hzero : size ≠ 0 := by
    rintro rfl
    simp at hsize
    omega
  have hbias := rest_gt_iff width hpos hn hsize s
  have hcarry := carry_iff width hsize s (width.draw s).2
  have hquotient : (wideProduct (width.word s).1 size).1.toNat =
      (width.draw s).1 * n / width.size := by
    rw [(toNat_wideProduct _ _).1, (word_eq_draw width s).1, hsize, ← width.size_eq]
  unfold belowWords?
  unfold below at hlt ⊢
  dsimp only at hlt ⊢
  rw [(word_eq_draw width s).2, if_neg hzero, if_neg hn.ne]
  rw [if_neg hn.ne] at hlt
  by_cases hrest : (width.draw s).1 * n % width.size > width.size - n
  · rw [if_pos (hbias.2 hrest), if_pos hrest, (word_eq_draw width _).2]
    rw [if_pos hrest] at hlt
    by_cases hover : (width.draw s).1 * n % width.size +
        (width.draw (width.draw s).2).1 * n / width.size ≥ width.size
    · rw [if_pos hover] at hlt
      have hroom : (wideProduct (width.word s).1 size).1.toNat + 1 < 2 ^ width.bits := by
        rw [hquotient, ← width.size_eq]
        exact hlt.trans hn
      obtain ⟨y, hy, hvalue⟩ := successor?_eq hroom
      rw [if_pos (hcarry.2 hover), if_pos hover, hy]
      exact ⟨y, rfl, by rw [hvalue, hquotient]⟩
    · rw [if_neg (fun h => hover (hcarry.1 h)), if_neg hover]
      exact ⟨_, rfl, hquotient⟩
  · rw [if_neg (fun h => hrest (hbias.1 h)), if_neg hrest]
    exact ⟨_, rfl, hquotient⟩

/-- A number of a range is drawn in words just as without them, and it always fits. A size that does
not fit is the one of all words, and it wraps around to zero. -/
lemma belowWords?_eq (width : Width) {n : Nat} (hpos : 0 < n) (hn : n ≤ width.size)
    {size : BitVec width.bits} (hsize : size.toNat = n % width.size) (s : Source) :
    ∃ x, belowWords? width size s = (some x, (below width n s).2) ∧
      x.toNat = (below width n s).1 := by
  rcases hn.lt_or_eq with hlt | rfl
  · exact belowWords?_of_lt width hpos hlt (hsize.trans (Nat.mod_eq_of_lt hlt)) s
  · have hzero : size = 0 := BitVec.eq_of_toNat_eq (by simpa using hsize)
    have hword := word_eq_draw width s
    unfold belowWords? below
    dsimp only
    rw [if_pos hzero, if_pos rfl, hword.2]
    exact ⟨_, rfl, hword.1⟩

/-- How many words there are from one to another is worked out with differences that wrap around. -/
lemma toNat_count {low high : Int64} (horder : low ≤ high) :
    (high - low + 1).toBitVec.toNat = (high.toInt - low.toInt + 1).toNat % 2 ^ 64 := by
  have hle : low.toBitVec.toInt ≤ high.toBitVec.toInt := Int64.le_iff_toInt_le.1 horder
  have hsum : (high - low + 1).toBitVec = high.toBitVec - low.toBitVec + 1#64 := rfl
  have hlow := low.toBitVec.isLt
  have hhigh := high.toBitVec.isLt
  rw [hsum, BitVec.toNat_add, BitVec.toNat_sub, BitVec.toNat_ofNat]
  show _ = (high.toBitVec.toInt - low.toBitVec.toInt + 1).toNat % _
  rw [BitVec.toInt_eq_toNat_cond, BitVec.toInt_eq_toNat_cond] at hle ⊢
  split <;> split <;> simp_all <;> omega

/-- An integer is drawn in words just as without them: no step of it goes wrong, and where the
differences and sums wrap around they do so to the right word. -/
lemma integerWords?_eq {low high : Int64} (horder : low ≤ high) (s : Source) :
    ∃ n, integerWords? low high s = (some n, (integer low.toInt high.toInt s).2) ∧
      n.toInt = (integer low.toInt high.toInt s).1 := by
  have hle : low.toInt ≤ high.toInt := Int64.le_iff_toInt_le.1 horder
  have hlow := low.le_toInt
  have hhigh := high.toInt_lt
  have hcount := toNat_count horder
  set count := (high.toInt - low.toInt + 1).toNat with hdef
  have hfull : Width.full.size = 2 ^ 64 := rfl
  have hpos : 0 < count := by omega
  have hn : count ≤ 2 ^ 64 := by omega
  obtain ⟨x, hx, hvalue⟩ : ∃ x : BitVec 64, belowWords? .full (high - low + 1).toBitVec s =
      (some x, (below .full count s).2) ∧ x.toNat = (below .full count s).1 :=
    belowWords?_eq .full hpos hn hcount s
  have hlt := below_lt .full hpos s
  have hsigned : x.toInt = _ := BitVec.toInt_eq_toNat_cond x
  have hrun : integerWords? low high s =
      (some (if (high - low + 1).toBitVec = 0 then .ofBitVec x else low + .ofBitVec x),
        (below .full count s).2) := by
    unfold integerWords?
    dsimp only
    rw [hx]
    rfl
  by_cases hall : count = Width.full.size
  · have hzero : (high - low + 1).toBitVec = 0 :=
      BitVec.eq_of_toNat_eq (hcount.trans (by rw [hall]; rfl))
    rw [if_pos hzero] at hrun
    have hinteger : integer low.toInt high.toInt s =
        (if 2 * (below .full count s).1 < Width.full.size then ((below .full count s).1 : Int)
          else (below .full count s).1 - Width.full.size, (below .full count s).2) := by
      unfold integer
      dsimp only
      rw [← hdef, if_pos hall]
    rw [hinteger]
    refine ⟨_, hrun, ?_⟩
    rw [Int64.toInt_ofBitVec, hsigned, hvalue]
    rfl
  · have hzero : (high - low + 1).toBitVec ≠ 0 := by
      intro h
      rw [h, Nat.mod_eq_of_lt (lt_of_le_of_ne hn hall)] at hcount
      simp at hcount
      omega
    rw [if_neg hzero] at hrun
    have hinteger : integer low.toInt high.toInt s =
        (low.toInt + (below .full count s).1, (below .full count s).2) := by
      unfold integer
      dsimp only
      rw [← hdef, if_neg hall]
    rw [hinteger]
    refine ⟨_, hrun, ?_⟩
    rw [Int64.toInt_add, Int64.toInt_ofBitVec, BitVec.toInt_eq_toNat_bmod, Int.add_bmod_bmod,
      hvalue]
    apply Int.bmod_eq_of_le <;> omega

/-! ### Every value -/

/-- Any word is the first of some source, with a zero behind it. -/
lemma exists_draw (width : Width) {x : Nat} (hx : x < width.size) :
    ∃ s, (width.draw s).1 = x ∧ (width.draw (width.draw s).2).1 = 0 := by
  cases width with
  | half =>
    have hlt : x < 2 ^ 32 := hx
    refine ⟨.ofWords #[.ofNat (x * 0x100000000)], ?_, Nat.zero_div _⟩
    have hword : (UInt64.ofNat (x * 0x100000000)).toNat = x * 0x100000000 :=
      UInt64.toNat_ofNat_of_lt' (by show _ < 2 ^ 64; omega)
    exact (congrArg (· / 0x100000000) hword).trans (Nat.mul_div_cancel x (by decide))
  | full => exact ⟨.ofWords #[.ofNat x], UInt64.toNat_ofNat_of_lt' hx, rfl⟩

/-- The least word that is scaled down to a number below the bound: what is cut off is less than
the bound. -/
lemma exists_scaled {size n k : Nat} (hn : n ≤ size) (hk : k < n) :
    ∃ x < size, x * n / size = k ∧ x * n % size < n := by
  have hpos : 0 < n := Nat.zero_lt_of_lt hk
  set x := (k * size + (n - 1)) / n
  have hparts : x * n + (k * size + (n - 1)) % n = k * size + (n - 1) := Nat.div_add_mod' _ n
  have hrest : (k * size + (n - 1)) % n < n := Nat.mod_lt _ hpos
  have hnext : (k + 1) * size = k * size + size := Nat.succ_mul k size
  have hquotient : x * n / size = k := Nat.div_eq_of_lt_le (by omega) (by omega)
  refine ⟨x, ?_, hquotient, ?_⟩
  · have hle : (k + 1) * size ≤ n * size := Nat.mul_le_mul_right size hk
    exact Nat.lt_of_mul_lt_mul_right (a := n) (by rw [Nat.mul_comm size]; omega)
  · have hwhole := Nat.div_add_mod' (x * n) size
    rw [hquotient] at hwhole
    omega

/-- Every number below a bound is drawn from some source. Where a second word is asked for, it is
zero and carries nothing. -/
lemma exists_below (width : Width) {n k : Nat} (hn : n ≤ width.size) (hk : k < n) :
    ∃ s, (below width n s).1 = k := by
  obtain ⟨x, hx, hquotient, hrest⟩ := exists_scaled hn hk
  obtain ⟨s, hfirst, hsecond⟩ := exists_draw width hx
  refine ⟨s, ?_⟩
  unfold below
  dsimp only
  rw [hfirst, hsecond, hquotient, Nat.zero_mul, Nat.zero_div, Nat.add_zero,
    if_neg (Nat.not_le.2 (hrest.trans_le hn))]
  split
  · rename_i h
    rwa [h, Nat.mul_div_cancel _ (h ▸ Nat.zero_lt_of_lt hk)] at hquotient
  · split <;> rfl

lemma exists_integer {low high n : Int} (hlow : -2 ^ 63 ≤ low) (hhigh : high < 2 ^ 63)
    (hge : low ≤ n) (hle : n ≤ high) : ∃ s, (integer low high s).1 = n := by
  have hfull : Width.full.size = 2 ^ 64 := rfl
  by_cases hall : (high - low + 1).toNat = Width.full.size
  · obtain ⟨s, hs⟩ := exists_below .full (n := (high - low + 1).toNat)
      (k := (if n < 0 then n + 2 ^ 64 else n).toNat) (by omega) (by split <;> omega)
    refine ⟨s, ?_⟩
    unfold integer
    dsimp only
    rw [if_pos hall, hs]
    split <;> split at * <;> omega
  · obtain ⟨s, hs⟩ := exists_below .full (n := (high - low + 1).toNat) (k := (n - low).toNat)
      (by omega) (by omega)
    refine ⟨s, ?_⟩
    unfold integer
    dsimp only
    rw [if_neg hall, hs]
    omega

lemma exists_pick {α : Type} {options : List α} (hlength : options.length < 2 ^ 64) {option : α}
    (h : option ∈ options) : ∃ s, (pick options s).1 = some option := by
  obtain ⟨k, hk, rfl⟩ := List.getElem_of_mem h
  have hsize : options.length ≤ (Width.counting options.length).size := by
    unfold Width.counting
    split
    · exact Nat.le_of_lt ‹_›
    · exact Nat.le_of_lt hlength
  obtain ⟨s, hs⟩ := exists_below _ hsize hk
  refine ⟨s, ?_⟩
  unfold pick
  dsimp only
  rw [if_neg (by rw [List.isEmpty_iff]; exact List.ne_nil_of_mem h), hs]
  exact List.getElem?_eq_getElem hk

lemma exists_textLength {n : Nat} (hge : shortestText ≤ n) (hle : n ≤ longestText) :
    ∃ s, (textLength s).1 = n := by
  have hspan : longestText - shortestText + 1 ≤ Width.half.size := by decide
  obtain ⟨s, hs⟩ := exists_below .half (k := n - shortestText) hspan (by omega)
  exact ⟨s, (congrArg (shortestText + ·) hs).trans (Nat.add_sub_of_le hge)⟩

/-- Drawn from whatever source, an integer lies between its bounds, an option is one of the options,
and a length is one of those between the shortest and the longest; and each of these values is drawn
from some source. No bounds are too far apart for the words that an integer is drawn in. -/
theorem draws_cover_ranges :
    (∀ low high : Int64, low ≤ high →
      (∀ s, ∃ n, integerWords? low high s = (some n, (integer low.toInt high.toInt s).2) ∧
        n.toInt = (integer low.toInt high.toInt s).1 ∧ low ≤ n ∧ n ≤ high) ∧
      ∀ n, low ≤ n → n ≤ high → ∃ s, (integerWords? low high s).1 = some n) ∧
    (∀ (α : Type) (options : List α), options ≠ [] →
      (∀ s, ∃ option ∈ options, (pick options s).1 = some option) ∧
      (options.length < 2 ^ 64 → ∀ option ∈ options, ∃ s, (pick options s).1 = some option)) ∧
    (∀ s, 10 ≤ (textLength s).1 ∧ (textLength s).1 ≤ 999) ∧
    ∀ n, 10 ≤ n → n ≤ 999 → ∃ s, (textLength s).1 = n := by
  refine ⟨fun low high horder => ⟨fun s => ?_, fun n hge hle => ?_⟩,
    fun α options hne => ⟨pick_mem hne, fun hlength _ => exists_pick hlength⟩, textLength_mem,
    fun n => exists_textLength⟩
  · obtain ⟨n, hn, hvalue⟩ := integerWords?_eq horder s
    have hmem := integer_mem (Int64.le_iff_toInt_le.1 horder) low.le_toInt high.toInt_lt s
    rw [← hvalue] at hmem
    exact ⟨n, hn, hvalue, Int64.le_iff_toInt_le.2 hmem.1, Int64.le_iff_toInt_le.2 hmem.2⟩
  · obtain ⟨s, hs⟩ := exists_integer low.le_toInt high.toInt_lt (Int64.le_iff_toInt_le.1 hge)
      (Int64.le_iff_toInt_le.1 hle)
    obtain ⟨m, hm, hvalue⟩ := integerWords?_eq horder s
    have heq : m = n := Int64.toInt_inj.1 (hvalue.trans hs)
    exact ⟨s, by rw [hm, heq]⟩

/-- The least and the greatest word are drawn from the range of all words, the last of three options
is picked, and so is the longest text. -/
theorem draws_cover_ends :
    ((∃ s, (integerWords? .minValue .maxValue s).1 = some .minValue) ∧
      ∃ s, (integerWords? .minValue .maxValue s).1 = some .maxValue) ∧
    (∃ s, (pick ['a', 'b', 'c'] s).1 = some 'c') ∧ ∃ s, (textLength s).1 = 999 :=
  have ⟨hintegers, hoptions, _, hlengths⟩ := draws_cover_ranges
  have hall := (hintegers .minValue .maxValue (by decide)).2
  ⟨⟨hall .minValue (by decide) (by decide), hall .maxValue (by decide) (by decide)⟩,
    (hoptions Char ['a', 'b', 'c'] (by decide)).2 (by decide) 'c' (by decide),
    hlengths 999 (by decide) (by decide)⟩

end CouchLoad.Entropy
