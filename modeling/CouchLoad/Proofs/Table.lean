import CouchLoad.Table
import Mathlib.Algebra.BigOperators.Intervals
import Mathlib.Data.List.Nodup
import Mathlib.Tactic.Common

/-!
# Keys and totals of tables

What writing and erasing do to the keys of a table, and to the sum of a measure over its values.
-/

namespace CouchLoad.Table

variable {α : Type}

@[simp] lemma keys_nil : keys ([] : Table α) = [] := rfl

@[simp] lemma keys_cons (entry : String × α) (t : Table α) :
    keys (entry :: t) = entry.1 :: keys t := rfl

lemma get?_eq_none_iff {t : Table α} {key : String} : t.get? key = none ↔ key ∉ t.keys := by
  induction t with
  | nil => simp [get?]
  | cons entry t ih =>
    obtain ⟨k, v⟩ := entry
    by_cases h : k = key
    · simp [get?_cons, h]
    · simp [get?_cons, h, ih, Ne.symm h]

lemma isSome_get?_iff {t : Table α} {key : String} : (t.get? key).isSome ↔ key ∈ t.keys := by
  rw [Option.isSome_iff_ne_none, Ne, get?_eq_none_iff, not_not]

lemma mem_keys_of_get? {t : Table α} {key : String} {value : α} (h : t.get? key = some value) :
    key ∈ t.keys := isSome_get?_iff.1 (by simp [h])

lemma mem_of_get? {t : Table α} {key : String} {value : α} (h : t.get? key = some value) :
    (key, value) ∈ t := by
  induction t with
  | nil => simp [get?_nil] at h
  | cons entry t ih =>
    obtain ⟨k, v⟩ := entry
    rw [get?_cons] at h
    by_cases hk : k = key
    · rw [if_pos hk, Option.some.injEq] at h
      simp [hk, h]
    · rw [if_neg hk] at h
      exact List.mem_cons_of_mem _ (ih h)

lemma get?_of_mem {t : Table α} (h : t.keys.Nodup) {entry : String × α} (hmem : entry ∈ t) :
    t.get? entry.1 = some entry.2 := by
  induction t with
  | nil => cases hmem
  | cons first t ih =>
    obtain ⟨k, v⟩ := first
    obtain ⟨hfirst, ht⟩ := List.nodup_cons.1 h
    rw [get?_cons]
    rcases List.mem_cons.1 hmem with rfl | hmem
    · rw [if_pos rfl]
    · have hkey : entry.1 ∈ keys t := List.mem_map_of_mem hmem
      rw [if_neg fun heq : k = entry.1 => hfirst (heq ▸ hkey), ih ht hmem]

lemma get?_insert_self (t : Table α) (key : String) (value : α) :
    (t.insert key value).get? key = some value := by simp [get?_insert]

lemma get?_insert_of_ne (t : Table α) {key key' : String} (h : key' ≠ key) (value : α) :
    (t.insert key value).get? key' = t.get? key' := by simp [get?_insert, Ne.symm h]

lemma contains_iff {t : Table α} {key : String} : t.contains key = true ↔ key ∈ t.keys :=
  isSome_get?_iff

/-- Writing to a key that is present keeps the keys. -/
lemma keys_insert_of_mem {t : Table α} {key : String} (h : key ∈ t.keys) (value : α) :
    (t.insert key value).keys = t.keys := by
  induction t with
  | nil => simp at h
  | cons entry t ih =>
    obtain ⟨k, v⟩ := entry
    by_cases hk : k = key
    · simp [insert, hk]
    · have htail : key ∈ keys t := by simpa [Ne.symm hk] using h
      simp [insert, hk, ih htail]

/-- Writing to a key that is absent appends an entry. -/
lemma insert_of_notMem {t : Table α} {key : String} (h : key ∉ t.keys) (value : α) :
    t.insert key value = t ++ [(key, value)] := by
  induction t with
  | nil => rfl
  | cons entry t ih =>
    obtain ⟨k, v⟩ := entry
    rw [keys_cons, List.mem_cons, not_or] at h
    simp [insert, Ne.symm h.1, ih h.2]

lemma keys_append (s t : Table α) : keys (s ++ t) = keys s ++ keys t := List.map_append

lemma keys_insert_of_notMem {t : Table α} {key : String} (h : key ∉ t.keys) (value : α) :
    (t.insert key value).keys = t.keys ++ [key] := by
  rw [insert_of_notMem h, keys_append]
  rfl

lemma nodup_keys_insert {t : Table α} (h : t.keys.Nodup) (key : String) (value : α) :
    (t.insert key value).keys.Nodup := by
  by_cases hk : key ∈ t.keys
  · rwa [keys_insert_of_mem hk]
  · rw [keys_insert_of_notMem hk]
    exact List.nodup_append.2 ⟨h, List.nodup_singleton _, by
      intro a ha b hb
      rw [List.mem_singleton] at hb
      rintro rfl
      exact hk (hb ▸ ha)⟩

/-- Of two values that are written to a key the later one stays. -/
lemma insert_insert (t : Table α) (key : String) (value value' : α) :
    (t.insert key value).insert key value' = t.insert key value' := by
  induction t with
  | nil => simp [insert]
  | cons entry t ih =>
    obtain ⟨k, v⟩ := entry
    by_cases hk : k = key <;> simp [insert, hk, ih]

lemma keys_erase (t : Table α) (key : String) : (t.erase key).keys = t.keys.filter (· ≠ key) := by
  induction t with
  | nil => rfl
  | cons entry t ih =>
    unfold erase at ih ⊢
    by_cases h : entry.1 = key <;> simp_all

lemma nodup_keys_erase {t : Table α} (h : t.keys.Nodup) (key : String) :
    (t.erase key).keys.Nodup := by
  rw [keys_erase]
  exact h.filter _

lemma mem_of_mem_erase {t : Table α} {key : String} {entry : String × α}
    (h : entry ∈ t.erase key) : entry ∈ t :=
  List.mem_of_mem_filter h

lemma erase_of_notMem {t : Table α} {key : String} (h : key ∉ t.keys) : t.erase key = t := by
  refine List.filter_eq_self.2 fun entry hentry => ?_
  have : entry.1 ∈ t.keys := List.mem_map_of_mem hentry
  simpa using fun heq : entry.1 = key => h (heq ▸ this)

lemma erase_append (s t : Table α) (key : String) :
    erase (s ++ t) key = s.erase key ++ t.erase key := List.filter_append ..

/-- Entries with keys of their own are appended as they are. -/
lemma foldl_insert_of_nodup (entries t : Table α) (hentries : entries.keys.Nodup)
    (hnew : ∀ key ∈ entries.keys, key ∉ t.keys) :
    entries.foldl (fun t entry => t.insert entry.1 entry.2) t = t ++ entries := by
  induction entries generalizing t with
  | nil => simp
  | cons entry entries ih =>
    rw [keys_cons, List.nodup_cons] at hentries
    rw [List.foldl_cons, insert_of_notMem (hnew _ (by simp)), ih _ hentries.2, List.append_assoc]
    · rfl
    · intro key hkey
      rw [keys_append, List.mem_append, not_or]
      refine ⟨hnew key (by simp [hkey]), ?_⟩
      have hne : key ≠ entry.1 := fun heq => hentries.1 (heq ▸ hkey)
      simpa using hne

/-! ### Totals -/

/-- The sum of a measure over all values. -/
def total (measure : α → Nat) (t : Table α) : Nat :=
  (t.map fun entry => measure entry.2).sum

/-- Writing to a key changes the total by the new value and the one in its place. -/
lemma total_insert (measure : α → Nat) (t : Table α) (key : String) (value : α) :
    total measure (t.insert key value) + ((t.get? key).map measure).getD 0 =
      total measure t + measure value := by
  induction t with
  | nil => simp [insert, get?_nil, total]
  | cons entry t ih =>
    obtain ⟨k, v⟩ := entry
    rw [get?_cons]
    by_cases hk : k = key
    · simp only [insert, hk, if_true, total, List.map_cons, List.sum_cons, Option.map_some,
        Option.getD_some]
      omega
    · simp only [insert, hk, if_false, total, List.map_cons, List.sum_cons] at ih ⊢
      omega

lemma mul_length_le_total {t : Table α} (measure : α → Nat) {each : Nat}
    (h : ∀ entry ∈ t, each ≤ measure entry.2) :
    each * t.length ≤ t.total measure := by
  induction t with
  | nil => exact Nat.zero_le _
  | cons entry t ih =>
    obtain ⟨hentry, ht⟩ := List.forall_mem_cons.1 h
    have hrest := ih ht
    simp only [total, List.map_cons, List.sum_cons, List.length_cons, Nat.mul_succ] at hrest ⊢
    omega

/-- If a total is as small as it can be, so is every single measure. -/
lemma eq_of_total {t : Table α} (measure : α → Nat) {each : Nat}
    (h : ∀ entry ∈ t, each ≤ measure entry.2) (htotal : t.total measure = each * t.length) :
    ∀ entry ∈ t, measure entry.2 = each := by
  induction t with
  | nil => simp
  | cons entry t ih =>
    obtain ⟨hentry, ht⟩ := List.forall_mem_cons.1 h
    have hrest := mul_length_le_total measure ht
    simp only [total, List.map_cons, List.sum_cons, List.length_cons, Nat.mul_succ] at htotal hrest
    exact List.forall_mem_cons.2 ⟨by omega, ih ht (show List.sum _ = _ by omega)⟩

/-- Writing the value that is there changes nothing. -/
lemma insert_get? {t : Table α} {key : String} {value : α} (h : t.get? key = some value) :
    t.insert key value = t := by
  induction t with
  | nil => simp [get?_nil] at h
  | cons entry t ih =>
    obtain ⟨k, v⟩ := entry
    rw [get?_cons] at h
    by_cases hk : k = key
    · rw [if_pos hk, Option.some.injEq] at h
      simp [insert, hk, h]
    · rw [if_neg hk] at h
      simp [insert, hk, ih h]

end CouchLoad.Table
