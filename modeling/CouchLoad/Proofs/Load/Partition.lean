import CouchLoad.Load.Run
import Mathlib.Data.List.Nodup
import Mathlib.Data.Set.Function
import Mathlib.Tactic.Common

/-!
# Partitions cover all counters

Wherever a division starts, a counter belongs to one worker at most. As long as all counters are
words, the ranges of the workers follow each other without gaps, all of one size up to the
remainder, and no step of working them out leaves the words.
-/

namespace CouchLoad.Partition

/-! ### Portions -/

/-- The number of counters that the range at a place is to hold. -/
def portion (total workers place : Nat) : Nat :=
  if workers > total then 1
  else if place + 1 = workers then total / workers + total % workers
  else total / workers

/-- The number of counters that the ranges in front of a place are to hold. -/
def before (total workers place : Nat) : Nat :=
  place * max 1 (total / workers)

section Portions

variable {total workers place place' : Nat}

lemma portion_pos (h : place < min workers total) : 0 < portion total workers place := by
  unfold portion
  split
  · exact Nat.one_pos
  · have hshare : 0 < total / workers := Nat.div_pos (by omega) (by omega)
    split <;> omega

/-- Where one range ends, the next one starts. -/
lemma before_succ (h : place + 1 < min workers total) :
    before total workers (place + 1) =
      before total workers place + portion total workers place := by
  unfold before portion
  rw [Nat.succ_mul]
  split
  · rename_i hmore
    rw [Nat.div_eq_of_lt hmore]
    rfl
  · have hshare : 0 < total / workers := Nat.div_pos (by omega) (by omega)
    rw [if_neg (by omega), Nat.max_eq_right hshare]

/-- The last range ends where all counters end. -/
lemma before_last (h : place + 1 = min workers total) :
    before total workers place + portion total workers place = total := by
  unfold before portion
  split
  · rename_i hmore
    rw [Nat.div_eq_of_lt hmore, Nat.max_eq_left Nat.one_pos.le, Nat.mul_one]
    omega
  · have hshare : 0 < total / workers := Nat.div_pos (by omega) (by omega)
    have hworkers : place + 1 = workers := by omega
    have hall := Nat.div_add_mod' total workers
    rw [if_pos hworkers, Nat.max_eq_right hshare, ← Nat.add_assoc, ← Nat.succ_mul,
      Nat.succ_eq_add_one, hworkers, Nat.mul_comm, hall]

/-- A range ends in front of every later one. -/
lemma before_le (hplace : place < place') (hplace' : place' < min workers total) :
    before total workers place + portion total workers place ≤ before total workers place' := by
  rw [← before_succ (by omega)]
  exact Nat.mul_le_mul_right _ hplace

lemma before_le_total (h : place < min workers total) :
    before total workers place + portion total workers place ≤ total := by
  obtain ⟨last, hlast⟩ : ∃ last, last + 1 = min workers total := ⟨_, Nat.sub_add_cancel (by omega)⟩
  have hall := before_last hlast
  rcases Nat.lt_or_eq_of_le (show place ≤ last by omega) with hlt | rfl
  · have hle := before_le hlt (show last < min workers total by omega)
    omega
  · exact hall.le

/-- Portions side by side are one range. -/
lemma flatMap_portions (start : Nat) (h : place < min workers total) :
    ((List.range (place + 1)).flatMap fun i =>
      List.range' (start + before total workers i) (portion total workers i)) =
        List.range' start (before total workers place + portion total workers place) := by
  induction place with
  | zero => simp [before]
  | succ place ih =>
    rw [List.range_succ, List.flatMap_append, ih (by omega), List.flatMap_singleton,
      ← before_succ h, List.range'_append_1]

end Portions

/-! ### Ranges of words -/

/-- A sum that fits a word is the sum. -/
lemma toNat_add_of_lt {m n : UInt64} (h : m.toNat + n.toNat < UInt64.size) :
    (m + n).toNat = m.toNat + n.toNat := by
  rw [UInt64.toNat_add]
  exact Nat.mod_eq_of_lt h

variable {total start : UInt64} {workers place : Nat} {p : Partition}

/-- The share of a worker, if there are enough counters for all of them. -/
lemma toNat_share (h : workers ≤ total.toNat) :
    (total / workers.toUInt64).toNat = total.toNat / workers := by
  have hword := total.toNat_lt
  rw [UInt64.toNat_div, UInt64.toNat_ofNat', Nat.mod_eq_of_lt (by omega)]

/-- What is in front of a range of several counters. -/
lemma mul_share (hplace : place < workers) (hle : workers ≤ total.toNat) :
    place.toUInt64.toNat * (total / workers.toUInt64).toNat = before total.toNat workers place := by
  have hword := total.toNat_lt
  rw [UInt64.toNat_ofNat', toNat_share hle, Nat.mod_eq_of_lt (by omega), before,
    Nat.max_eq_right (Nat.div_pos hle (by omega))]

/-- Where a range of several counters starts and ends. -/
lemma toNat_range (hplace : place < workers) (hle : workers ≤ total.toNat) :
    let r := range (total / workers.toUInt64) workers start (start + total - 1) place
    r.first.toNat = (start.toNat + before total.toNat workers place) % UInt64.size ∧
      r.last.toNat = (start.toNat + before total.toNat workers place +
        portion total.toNat workers place - 1) % UInt64.size := by
  have hfirst : (start + place.toUInt64 * (total / workers.toUInt64)).toNat =
      (start.toNat + before total.toNat workers place) % UInt64.size := by
    rw [UInt64.toNat_add, UInt64.toNat_mul, mul_share hplace hle, Nat.add_mod_mod]
  refine ⟨hfirst, ?_⟩
  have hpos := portion_pos (show place < min workers total.toNat by omega)
  unfold range
  dsimp only
  split
  · have hall := before_last (show place + 1 = min workers total.toNat by omega)
    rw [Nat.add_assoc, hall, UInt64.toNat_sub, UInt64.toNat_add]
    simp only [UInt64.size, UInt64.toNat_one]
    omega
  · have hportion : portion total.toNat workers place = total.toNat / workers := by
      rw [portion, if_neg (by omega), if_neg (by omega)]
    rw [UInt64.toNat_sub, UInt64.toNat_add, hfirst, toNat_share hle, ← hportion]
    simp only [UInt64.size, UInt64.toNat_one]
    omega

/-- Where the range at a place starts and ends. Behind the greatest word this goes on with zero. -/
lemma divide_getElem? (h : (divide total workers start)[place]? = some p) :
    place < min workers total.toNat ∧
      p.first.toNat = (start.toNat + before total.toNat workers place) % UInt64.size ∧
      p.last.toNat = (start.toNat + before total.toNat workers place +
        portion total.toNat workers place - 1) % UInt64.size := by
  have htotal := total.toNat_lt
  have hstart := start.toNat_lt
  unfold divide at h
  split at h
  · cases h
  · dsimp only at h
    split at h
    · rename_i hmore
      rw [List.getElem?_map, Option.map_eq_some_iff] at h
      obtain ⟨n, hn, rfl⟩ := h
      obtain ⟨hlt, heq⟩ := List.getElem?_eq_some_iff.1 hn
      rw [List.getElem_range'] at heq
      rw [List.length_range', UInt64.toNat_add] at hlt
      have hone : before total.toNat workers place = place := by
        rw [before, Nat.div_eq_of_lt hmore]
        exact Nat.mul_one place
      rw [hone, portion, if_pos hmore]
      simp only [single, UInt64.toNat_ofNat', UInt64.size]
      omega
    · rename_i hle
      rw [List.getElem?_map, Option.map_eq_some_iff] at h
      obtain ⟨i, hi, rfl⟩ := h
      obtain ⟨hlt, heq⟩ := List.getElem?_eq_some_iff.1 hi
      rw [List.length_range] at hlt
      rw [List.getElem_range] at heq
      subst heq
      exact ⟨by omega, toNat_range hlt (by omega)⟩

/-- Every counter of a range lies in its portion. -/
lemma mem_counters (h : (divide total workers start)[place]? = some p) {n : Nat}
    (hn : n ∈ p.counters) :
    place < min workers total.toNat ∧
      ∃ k, before total.toNat workers place ≤ k ∧
        k < before total.toNat workers place + portion total.toNat workers place ∧
        n = (start.toNat + k) % UInt64.size := by
  have htotal := total.toNat_lt
  obtain ⟨hplace, hfirst, hlast⟩ := divide_getElem? h
  have hle := before_le_total hplace
  have hpos := portion_pos hplace
  obtain ⟨hfrom, hto⟩ := List.mem_range'_1.1 hn
  refine ⟨hplace, before total.toNat workers place + (n - p.first.toNat), by omega, ?_⟩
  simp only [size, UInt64.size] at *
  omega

/-! ### Divisions that fit -/

/-- Where the range at a place starts and ends, if all counters are words. -/
lemma divide_fits (hfits : start.toNat + total.toNat < UInt64.size)
    (h : (divide total workers start)[place]? = some p) :
    p.first.toNat = start.toNat + before total.toNat workers place ∧
      p.last.toNat + 1 = p.first.toNat + portion total.toNat workers place ∧
      p.last.toNat < start.toNat + total.toNat := by
  obtain ⟨hplace, hfirst, hlast⟩ := divide_getElem? h
  have hle := before_le_total hplace
  have hpos := portion_pos hplace
  rw [Nat.mod_eq_of_lt (by omega)] at hfirst hlast
  omega

/-- The counters of the range at a place, if all counters are words. -/
lemma counters_fits (hfits : start.toNat + total.toNat < UInt64.size)
    (h : (divide total workers start)[place]? = some p) :
    p.counters = List.range' (start.toNat + before total.toNat workers place)
      (portion total.toNat workers place) := by
  obtain ⟨hfirst, hlast, -⟩ := divide_fits hfits h
  unfold counters size
  rw [hfirst] at hlast ⊢
  congr 1
  omega

lemma length_divide (hworkers : workers ≠ 0) (hfits : start.toNat + total.toNat < UInt64.size) :
    (divide total workers start).length = min workers total.toNat := by
  unfold divide
  split
  · rename_i hnone
    have hzero : total.toNat = 0 := by simpa [hworkers, ← UInt64.toNat_inj] using hnone
    rw [hzero, Nat.min_zero]
    rfl
  · dsimp only
    split
    · rw [List.length_map, List.length_range', UInt64.toNat_add, Nat.mod_eq_of_lt hfits]
      omega
    · rw [List.length_map, List.length_range]
      omega

/-- The ranges that counters are divided into are all counters in their order. -/
theorem counters_divide (hworkers : workers ≠ 0)
    (hfits : start.toNat + total.toNat < UInt64.size) :
    (divide total workers start).flatMap counters = List.range' start.toNat total.toNat := by
  have hportions : (divide total workers start).map counters =
      (List.range (min workers total.toNat)).map fun i =>
        List.range' (start.toNat + before total.toNat workers i)
          (portion total.toNat workers i) := by
    refine List.ext_getElem (by simp [length_divide hworkers hfits]) fun i hi _ => ?_
    rw [List.getElem_map, List.getElem_map, List.getElem_range]
    exact counters_fits hfits (List.getElem?_eq_getElem _)
  rw [List.flatMap_def, hportions, ← List.flatMap_def]
  rcases Nat.eq_zero_or_pos (min workers total.toNat) with hnone | hsome
  · have hzero : total.toNat = 0 := by omega
    rw [hnone, hzero]
    rfl
  · obtain ⟨last, hlast⟩ : ∃ last, last + 1 = min workers total.toNat :=
      ⟨_, Nat.sub_add_cancel hsome⟩
    rw [← hlast, flatMap_portions _ (by omega), before_last hlast]

/-! ### Checked steps -/

lemma sum?_eq {m n : UInt64} (h : m.toNat + n.toNat < UInt64.size) : sum? m n = some (m + n) :=
  if_pos h

lemma product?_eq {m n : UInt64} (h : m.toNat * n.toNat < UInt64.size) :
    product? m n = some (m * n) :=
  if_pos h

lemma difference?_eq {m n : UInt64} (h : n.toNat ≤ m.toNat) : difference? m n = some (m - n) :=
  if_pos (UInt64.le_iff_toNat_le.2 h)

/-- A computation that always has a result has results for whole lists. -/
lemma mapM_eq_some {α β : Type} {f : α → Option β} {g : α → β} {l : List α}
    (h : ∀ a ∈ l, f a = some (g a)) : l.mapM f = some (l.map g) := by
  induction l with
  | nil => rfl
  | cons a l ih =>
    rw [List.mapM_cons, h a List.mem_cons_self, ih fun b hb => h b (List.mem_cons_of_mem _ hb)]
    rfl

/-- Step by step the last counter comes out as it does at once, if all counters are words. -/
lemma last?_eq (hplace : place < workers) (hle : workers ≤ total.toNat)
    (hfits : start.toNat + total.toNat < UInt64.size) :
    let r := range (total / workers.toUInt64) workers start (start + total - 1) place
    last? (total / workers.toUInt64) workers (start + total - 1) r.first place = some r.last := by
  intro r
  have hword := total.toNat_lt
  have hworkers : workers.toUInt64.toNat = workers := by
    rw [UInt64.toNat_ofNat', Nat.mod_eq_of_lt (by omega)]
  have hone : (1 : UInt64).toNat ≤ workers.toUInt64.toNat := by
    rw [hworkers, UInt64.toNat_one]
    omega
  have hfinal : place.toUInt64 = workers.toUInt64 - 1 ↔ place = workers - 1 := by
    rw [← UInt64.toNat_inj, UInt64.toNat_sub_of_le _ _ hone, hworkers, UInt64.toNat_ofNat',
      UInt64.toNat_one, Nat.mod_eq_of_lt (by omega)]
  rw [last?, difference?_eq hone, Option.bind_some]
  by_cases hlast : place = workers - 1
  · rw [if_pos (hfinal.2 hlast)]
    simp only [r, range, if_pos hlast]
  · have hwithin := before_le_total (show place < min workers total.toNat by omega)
    have hfirst : r.first.toNat = start.toNat + before total.toNat workers place := by
      rw [(toNat_range hplace hle).1, Nat.mod_eq_of_lt (by omega)]
    have hshare : (total / workers.toUInt64).toNat = portion total.toNat workers place := by
      rw [toNat_share hle, portion, if_neg (by omega), if_neg (by omega)]
    have hpos := portion_pos (show place < min workers total.toNat by omega)
    have hfit : r.first.toNat + (total / workers.toUInt64).toNat < UInt64.size := by omega
    rw [if_neg (mt hfinal.1 hlast), sum?_eq hfit, Option.bind_some, difference?_eq (by
      rw [toNat_add_of_lt hfit, UInt64.toNat_one]
      omega)]
    simp only [r, range, if_neg hlast]

/-- Step by step a range comes out as it does at once, if all counters are words. -/
lemma range?_eq (hplace : place < workers) (hle : workers ≤ total.toNat)
    (hfits : start.toNat + total.toNat < UInt64.size) :
    range? (total / workers.toUInt64) workers start (start + total - 1) place =
      some (range (total / workers.toUInt64) workers start (start + total - 1) place) := by
  have hwithin := before_le_total (show place < min workers total.toNat by omega)
  have hproduct := mul_share hplace hle
  have hfit : before total.toNat workers place < UInt64.size := by omega
  have hsmall : (place.toUInt64 * (total / workers.toUInt64)).toNat =
      before total.toNat workers place := by
    rw [UInt64.toNat_mul, hproduct]
    exact Nat.mod_eq_of_lt hfit
  have hlast := last?_eq hplace hle hfits
  simp only [range] at hlast ⊢
  simp only [range?, product?_eq (hproduct.trans_lt hfit), Option.bind_eq_bind, Option.bind_some,
    sum?_eq (show start.toNat + (place.toUInt64 * (total / workers.toUInt64)).toNat <
      UInt64.size by omega), hlast, Option.pure_def]

/-- Step by step the division comes out as it does at once, if all counters are words. -/
lemma divide?_eq (hfits : start.toNat + total.toNat < UInt64.size) :
    divide? total workers start = some (divide total workers start) := by
  unfold divide? divide
  split
  · rfl
  · rename_i hsome
    have hpositive : total.toNat ≠ 0 := by
      intro hzero
      have heq : total = 0 := UInt64.toNat_inj.1 hzero
      simp [heq] at hsome
    simp only [sum?_eq hfits, Option.bind_eq_bind, Option.bind_some]
    split
    · rfl
    · rw [difference?_eq (by
        rw [toNat_add_of_lt hfits, UInt64.toNat_one]
        omega), Option.bind_some]
      exact mapM_eq_some fun i hi => range?_eq (List.mem_range.1 hi) (by omega) hfits

lemma size?_eq (hordered : p.first.toNat ≤ p.last.toNat)
    (hfits : p.last.toNat + 1 < UInt64.size) :
    p.size? = some p.width ∧ p.width.toNat = p.size := by
  have hdifference : (p.last - p.first).toNat = p.last.toNat - p.first.toNat :=
    UInt64.toNat_sub_of_le _ _ hordered
  have hfit : (p.last - p.first).toNat + (1 : UInt64).toNat < UInt64.size := by
    rw [hdifference, UInt64.toNat_one]
    omega
  constructor
  · rw [size?, difference?_eq hordered, Option.bind_some, sum?_eq hfit]
    rfl
  · rw [width, size, toNat_add_of_lt hfit, hdifference, UInt64.toNat_one]
    omega

/-- The division is exact. There are as many ranges as workers or counters, whichever are fewer;
no range is empty; side by side they are all counters in their order; each holds its portion; and
no step of working them out leaves the words. -/
theorem divide_exact (hworkers : 1 ≤ workers)
    (hfits : start.toNat + total.toNat < UInt64.size) :
    let ranges := divide total workers start
    ranges.length = min workers total.toNat ∧
      (∀ p ∈ ranges, p.counters ≠ []) ∧
      ranges.flatMap counters = List.range' start.toNat total.toNat ∧
      (∀ place p, ranges[place]? = some p →
        p.counters.length = portion total.toNat workers place) ∧
      divide? total workers start = some ranges ∧
      ∀ p ∈ ranges, p.size? = some p.width ∧ p.width.toNat = p.counters.length := by
  intro ranges
  have hlength : ∀ place p, ranges[place]? = some p →
      p.counters.length = portion total.toNat workers place := by
    intro place p hplace
    rw [counters_fits hfits hplace, List.length_range']
  refine ⟨length_divide (by omega) hfits, ?_, counters_divide (by omega) hfits, hlength,
    divide?_eq hfits, ?_⟩
  · intro p hp hnone
    obtain ⟨place, hplace⟩ := List.mem_iff_getElem?.1 hp
    have hpositive := portion_pos (divide_getElem? hplace).1
    rw [← hlength place p hplace, hnone] at hpositive
    exact Nat.lt_irrefl 0 hpositive
  · intro p hp
    obtain ⟨place, hplace⟩ := List.mem_iff_getElem?.1 hp
    obtain ⟨-, hlast, hbelow⟩ := divide_fits hfits hplace
    have hpositive := portion_pos (divide_getElem? hplace).1
    rw [counters, List.length_range']
    exact size?_eq (by omega) (by omega)

/-- Ten counters up to the last but one word, for three workers. -/
theorem divide_exact_edge :
    let start : UInt64 := 18446744073709551605
    let ranges := divide 10 3 start
    (1 ≤ 3 ∧ start.toNat + (10 : UInt64).toNat < UInt64.size) ∧ ranges.length = 3 ∧
      ranges.flatMap counters = List.range' 18446744073709551605 10 ∧
      ranges.map size = [3, 3, 4] ∧ divide? 10 3 start = some ranges := by
  have hexact := @divide_exact 10 18446744073709551605 3 (by decide) (by decide)
  exact ⟨by decide, hexact.1, hexact.2.2.1, by decide, hexact.2.2.2.2.1⟩

end CouchLoad.Partition

namespace CouchLoad.Config

/-- Words that follow each other are different, even where zero comes behind the greatest one. -/
lemma nodup_words (start : UInt64) {n : Nat} (h : n ≤ UInt64.size) :
    ((List.range n).map fun i => start + i.toUInt64).Nodup := by
  refine List.Nodup.map_on ?_ List.nodup_range
  intro i hi j hj heq
  rw [List.mem_range] at hi hj
  have hword : i.toUInt64.toNat = j.toUInt64.toNat :=
    congrArg UInt64.toNat ((UInt64.add_right_inj start).1 heq)
  rwa [UInt64.toNat_ofNat_of_lt' (by omega), UInt64.toNat_ofNat_of_lt' (by omega)] at hword

/-- All counters of a run. Behind the greatest word comes zero. -/
def counters (c : Config) : List Nat :=
  (List.range c.documents.toNat).map fun place => (c.firstCounter + place.toUInt64).toNat

/-- The counter behind a number of others. -/
lemma toNat_counter {c : Config} {k : Nat} (h : k < c.documents.toNat) :
    (c.firstCounter + k.toUInt64).toNat = (c.firstCounter.toNat + k) % UInt64.size := by
  have hword := c.documents.toNat_lt
  rw [UInt64.toNat_add, UInt64.toNat_ofNat', Nat.mod_eq_of_lt (show k < 2 ^ 64 by omega)]

lemma mem_counters_iff {c : Config} {n : Nat} :
    n ∈ c.counters ↔ ∃ k < c.documents.toNat, n = (c.firstCounter.toNat + k) % UInt64.size := by
  unfold counters
  rw [List.mem_map]
  constructor
  · rintro ⟨k, hk, rfl⟩
    rw [List.mem_range] at hk
    exact ⟨k, hk, toNat_counter hk⟩
  · rintro ⟨k, hk, rfl⟩
    exact ⟨k, List.mem_range.2 hk, toNat_counter hk⟩

/-- The counters follow each other, if all of them are words. -/
lemma counters_eq {c : Config} (hfits : c.firstCounter.toNat + c.documents.toNat < UInt64.size) :
    c.counters = List.range' c.firstCounter.toNat c.documents.toNat := by
  rw [counters, List.range'_eq_map_range]
  refine List.map_congr_left fun k hk => ?_
  rw [List.mem_range] at hk
  rw [toNat_counter hk, Nat.mod_eq_of_lt (by omega)]

lemma flatMap_partitions {c : Config} (h : c.workers ≠ 0)
    (hfits : c.firstCounter.toNat + c.documents.toNat < UInt64.size) :
    c.partitions.flatMap Partition.counters = c.counters := by
  rw [counters_eq hfits]
  exact Partition.counters_divide h hfits

variable {c : Config} {db : String} {place : Nat} {w : Worker}

lemma team_getElem? (h : (c.team db)[place]? = some w) :
    w.db = db ∧ w.config = c ∧ c.partitions[place]? = some w.partition := by
  rw [team, List.getElem?_mapIdx, Option.map_eq_some_iff] at h
  obtain ⟨partition, hpartition, rfl⟩ := h
  exact ⟨rfl, rfl, hpartition⟩

/-- The counters of a worker are counters of the run. -/
lemma mem_counters {partition : Partition} (h : c.partitions[place]? = some partition) :
    partition.counters ⊆ c.counters := by
  intro counter hcounter
  obtain ⟨hplace, k, -, hbelow, heq⟩ := Partition.mem_counters h hcounter
  have hle := Partition.before_le_total hplace
  exact mem_counters_iff.2 ⟨k, by omega, heq⟩

lemma nodup_partition {partition : Partition} : partition.counters.Nodup := List.nodup_range'

/-- No counter belongs to two workers. -/
lemma place_unique {place' : Nat} {partition partition' : Partition}
    (h : c.partitions[place]? = some partition) (h' : c.partitions[place']? = some partition')
    {counter : Nat} (hcounter : counter ∈ partition.counters)
    (hcounter' : counter ∈ partition'.counters) : place = place' := by
  have hword := c.documents.toNat_lt
  obtain ⟨hplace, k, hfrom, hto, heq⟩ := Partition.mem_counters h hcounter
  obtain ⟨hplace', k', hfrom', hto', heq'⟩ := Partition.mem_counters h' hcounter'
  have hle := Partition.before_le_total hplace
  have hle' := Partition.before_le_total hplace'
  have hsame : k = k' := by
    simp only [UInt64.size] at heq heq'
    omega
  rcases Nat.lt_trichotomy place place' with hless | hequal | hmore
  · have hbetween := Partition.before_le hless hplace'
    omega
  · exact hequal
  · have hbetween := Partition.before_le hmore hplace
    omega

/-- The ids of the counters of a worker. -/
def Owns (c : Config) (ids : Nat → String) (place : Nat) (id : String) : Prop :=
  ∃ partition counter, c.partitions[place]? = some partition ∧ counter ∈ partition.counters ∧
    ids counter = id

/-- An id has one owner at most, if every counter has an id of its own. -/
lemma Owns.unique {ids : Nat → String} (hinjective : Set.InjOn ids { n | n ∈ c.counters })
    {place' : Nat} {id : String} (h : c.Owns ids place id) (h' : c.Owns ids place' id) :
    place = place' := by
  obtain ⟨partition, counter, hpartition, hcounter, rfl⟩ := h
  obtain ⟨partition', counter', hpartition', hcounter', heq⟩ := h'
  have hsame : counter' = counter :=
    hinjective (mem_counters hpartition' hcounter') (mem_counters hpartition hcounter) heq
  rw [hsame] at hcounter'
  exact place_unique hpartition hpartition' hcounter hcounter'

end CouchLoad.Config
