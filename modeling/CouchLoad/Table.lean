/-!
# Tables in order of insertion

A table lists its entries in the order in which their keys first came. Writing to a key that is
present keeps its place and changes its value.
-/

namespace CouchLoad

/-- Entries with names as keys, oldest first. -/
abbrev Table (α : Type) := List (String × α)

namespace Table

variable {α : Type}

/-- The value at a key. -/
def get? (t : Table α) (key : String) : Option α :=
  t.lookup key

/-- Whether a key is present. -/
def contains (t : Table α) (key : String) : Bool :=
  (t.get? key).isSome

/-- Write a value: in the place of the key if it is present, else behind all entries. -/
def insert (t : Table α) (key : String) (value : α) : Table α :=
  match t with
  | [] => [(key, value)]
  | (k, v) :: rest => if k = key then (k, value) :: rest else (k, v) :: insert rest key value

/-- Remove the entry of a key; the others keep their order. -/
def erase (t : Table α) (key : String) : Table α :=
  t.filter fun entry => entry.1 ≠ key

/-- The table that results from writing entries one after the other. -/
def ofList (entries : List (String × α)) : Table α :=
  entries.foldl (fun t (key, value) => insert t key value) []

/-- The keys in order of insertion. -/
def keys (t : Table α) : List String :=
  t.map Prod.fst

theorem get?_nil (key : String) : get? ([] : Table α) key = none := rfl

theorem get?_cons (k key : String) (v : α) (t : Table α) :
    get? ((k, v) :: t) key = if k = key then some v else get? t key := by
  by_cases h : k = key
  · simp [get?, h]
  · have : (key == k) = false := by simp [Ne.symm h]
    simp [get?, List.lookup_cons, h, this]

/-- A key reads back what was last written to it, and no other key changes. -/
theorem get?_insert (t : Table α) (key key' : String) (value : α) :
    (t.insert key value).get? key' = if key = key' then some value else t.get? key' := by
  induction t with
  | nil => simp [insert, get?_cons]
  | cons entry t ih =>
    obtain ⟨k, v⟩ := entry
    by_cases hk : k = key
    · subst hk
      by_cases h : k = key' <;> simp [insert, get?_cons, h]
    · by_cases h : k = key'
      · subst h
        simp [insert, get?_cons, hk, Ne.symm hk]
      · simp [insert, get?_cons, hk, h, ih]

/-- An erased key is gone, and no other key changes. -/
theorem get?_erase (t : Table α) (key key' : String) :
    (t.erase key).get? key' = if key = key' then none else t.get? key' := by
  induction t with
  | nil => simp [erase, get?]
  | cons entry t ih =>
    obtain ⟨k, v⟩ := entry
    unfold erase at ih ⊢
    by_cases hk : k = key
    · subst hk
      by_cases h : k = key'
      · simpa [h] using ih
      · simpa [get?_cons, h] using ih
    · by_cases h : k = key'
      · subst h
        simp [get?_cons, hk, Ne.symm hk]
      · simpa [get?_cons, hk, h] using ih

end Table

end CouchLoad
