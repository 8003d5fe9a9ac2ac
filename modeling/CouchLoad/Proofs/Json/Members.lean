import CouchLoad.Json.Reader
import CouchLoad.Proofs.Outcome
import CouchLoad.Proofs.Table

/-!
# The names in a value

The names of all members of a value, however deep they stand. In what is read, no object has two
members of one name.
-/

namespace CouchLoad.Json

mutual

/-- The names of the members, at every depth. -/
def names : Json → List String
  | .array items => namesOfItems items
  | .object members => namesOfMembers members
  | _ => []

/-- The names inside items. -/
def namesOfItems : List Json → List String
  | [] => []
  | v :: items => v.names ++ namesOfItems items

/-- The names of members, and those inside their values. -/
def namesOfMembers : List (String × Json) → List String
  | [] => []
  | (name, v) :: members => name :: (v.names ++ namesOfMembers members)

end

lemma mem_namesOfItems_iff {name : String} {items : List Json} :
    name ∈ namesOfItems items ↔ ∃ v ∈ items, name ∈ v.names := by
  induction items with
  | nil => simp [namesOfItems]
  | cons v items ih => simp [namesOfItems, ih]

lemma mem_namesOfMembers_iff {name : String} {members : List (String × Json)} :
    name ∈ namesOfMembers members ↔
      ∃ member ∈ members, name = member.1 ∨ name ∈ member.2.names := by
  induction members with
  | nil => simp [namesOfMembers]
  | cons member members ih =>
    obtain ⟨key, v⟩ := member
    simp [namesOfMembers, ih, or_assoc]

/-- What is written to an object are its name and the names inside its value. -/
lemma mem_namesOfMembers_insert {name key : String} {v : Json} {t : Table Json}
    (h : name ∈ namesOfMembers (t.insert key v)) :
    name = key ∨ name ∈ v.names ∨ name ∈ namesOfMembers t := by
  induction t with
  | nil => simpa [Table.insert, namesOfMembers] using h
  | cons member t ih =>
    obtain ⟨key', v'⟩ := member
    unfold Table.insert at h
    split at h
    · simp only [namesOfMembers, List.mem_cons, List.mem_append] at h ⊢
      tauto
    · simp only [namesOfMembers, List.mem_cons, List.mem_append] at h ⊢
      tauto

/-- A value in which no object has two members of one name. -/
inductive Tidy : Json → Prop where
  | null : Tidy .null
  | bool (value : Bool) : Tidy (.bool value)
  | number (value : Number) : Tidy (.number value)
  | string (text : String) : Tidy (.string text)
  | array {items : List Json} (h : ∀ v ∈ items, Tidy v) : Tidy (.array items)
  | object {members : Table Json} (hkeys : members.keys.Nodup)
      (h : ∀ member ∈ members, Tidy member.2) : Tidy (.object members)

attribute [simp] Tidy.null Tidy.bool Tidy.number Tidy.string

@[simp] lemma tidy_array_iff {items : List Json} : Tidy (.array items) ↔ ∀ v ∈ items, Tidy v := by
  constructor
  · rintro ⟨⟩
    assumption
  · exact .array

@[simp] lemma tidy_object_iff {members : Table Json} :
    Tidy (.object members) ↔ members.keys.Nodup ∧ ∀ member ∈ members, Tidy member.2 := by
  constructor
  · rintro ⟨⟩
    exact ⟨‹_›, ‹_›⟩
  · exact fun ⟨hkeys, h⟩ => .object hkeys h

lemma tidy_insert {t : Table Json} (h : ∀ member ∈ t, Tidy member.2) (key : String) {v : Json}
    (hv : Tidy v) : ∀ member ∈ t.insert key v, Tidy member.2 := by
  induction t with
  | nil => simpa [Table.insert] using hv
  | cons member t ih =>
    rw [List.forall_mem_cons] at h
    unfold Table.insert
    split
    · exact List.forall_mem_cons.2 ⟨hv, h.2⟩
    · exact List.forall_mem_cons.2 ⟨h.1, ih h.2⟩

/-- Writing members one after the other makes a tidy object. -/
lemma tidy_ofList {members : List (String × Json)} (h : ∀ member ∈ members, Tidy member.2) :
    Tidy (.object (Table.ofList members)) := by
  suffices hfold : ∀ t : Table Json, t.keys.Nodup → (∀ member ∈ t, Tidy member.2) →
      Tidy (.object (members.foldl (fun t member => Table.insert t member.1 member.2) t)) from
    hfold [] List.nodup_nil (by simp)
  induction members with
  | nil => exact fun t hkeys ht => .object hkeys ht
  | cons member members ih =>
    rw [List.forall_mem_cons] at h
    intro t hkeys ht
    exact ih h.2 _ (Table.nodup_keys_insert hkeys _ _) (tidy_insert ht _ h.1)

/-! ### Reading -/

section Items

variable {α : Type} {P : α → Prop} {closing : Char}
  {item : List Char → Except ReadError (α × List Char)}

/-- Items are what the reader of an item reads. -/
lemma forall_of_readMore (hitem : ∀ {s rest x}, item s = .ok (x, rest) → P x) {fuel : Nat}
    {s rest : List Char} {xs : List α} (h : readMore closing item fuel s = .ok (xs, rest)) :
    ∀ x ∈ xs, P x := by
  induction fuel generalizing s xs with
  | zero => cases h
  | succ fuel ih =>
    rw [readMore] at h
    split at h
    · cases h
    · split_ifs at h
      · cases h
        simp
      · obtain ⟨⟨x, behind⟩, hx, h⟩ := bind_eq_ok_iff.1 h
        obtain ⟨⟨xs, behind'⟩, hxs, h⟩ := bind_eq_ok_iff.1 h
        cases h
        exact List.forall_mem_cons.2 ⟨hitem hx, ih hxs⟩

lemma forall_of_readItems (hitem : ∀ {s rest x}, item s = .ok (x, rest) → P x)
    {s rest : List Char} {xs : List α} (h : readItems closing item s = .ok (xs, rest)) :
    ∀ x ∈ xs, P x := by
  rw [readItems] at h
  split at h
  · cases h
  · split_ifs at h
    · cases h
      simp
    · obtain ⟨⟨x, behind⟩, hx, h⟩ := bind_eq_ok_iff.1 h
      obtain ⟨⟨xs, behind'⟩, hxs, h⟩ := bind_eq_ok_iff.1 h
      cases h
      exact List.forall_mem_cons.2 ⟨hitem hx, forall_of_readMore hitem hxs⟩

end Items

lemma tidy_of_readMember {value : List Char → Except ReadError (Json × List Char)}
    (hvalue : ∀ {s rest v}, value s = .ok (v, rest) → Tidy v) {s rest : List Char}
    {member : String × Json} (h : readMember value s = .ok (member, rest)) : Tidy member.2 := by
  rw [readMember] at h
  split at h
  · cases h
  · obtain ⟨⟨name, behind⟩, -, h⟩ := bind_eq_ok_iff.1 h
    dsimp only at h
    split at h
    · cases h
    · obtain ⟨⟨v, behind'⟩, hv, h⟩ := bind_eq_ok_iff.1 h
      cases h
      exact hvalue hv
    · cases h
  · cases h

lemma tidy_of_readScalar {s rest : List Char} {v : Json} (h : readScalar s = .ok (v, rest)) :
    Tidy v := by
  rw [readScalar.eq_def] at h
  split at h
  · cases h
  · split_ifs at h
    · obtain ⟨⟨numeral, behind⟩, -, h⟩ := bind_eq_ok_iff.1 h
      dsimp only at h
      split at h
      · cases h
        exact .number _
      · cases h
    · split at h
      · rename_i hfound
        cases h
        obtain ⟨⟨word, v'⟩, hmem, hv⟩ := List.exists_of_findSome?_eq_some hfound
        obtain ⟨_, -, hout⟩ := Option.map_eq_some_iff.1 hv
        cases hout
        simp only [literals, List.mem_cons, Prod.mk.injEq, List.not_mem_nil, or_false] at hmem
        rcases hmem with ⟨-, rfl⟩ | ⟨-, rfl⟩ | ⟨-, rfl⟩
        · exact .null
        · exact .bool true
        · exact .bool false
      · cases h

/-- What is read is tidy. -/
lemma tidy_of_readValue {levels : Nat} {s rest : List Char} {v : Json}
    (h : readValue levels s = .ok (v, rest)) : Tidy v := by
  induction levels generalizing s rest v with
  | zero =>
    rw [readValue] at h
    split at h
    · cases h
    · obtain ⟨⟨text, behind⟩, -, hout⟩ := map_eq_ok_iff.1 h
      cases hout
      exact .string _
    · cases h
    · cases h
    · exact tidy_of_readScalar h
  | succ levels ih =>
    rw [readValue] at h
    split at h
    · cases h
    · obtain ⟨⟨text, behind⟩, -, hout⟩ := map_eq_ok_iff.1 h
      cases hout
      exact .string _
    · obtain ⟨⟨items, behind⟩, hitems, hout⟩ := map_eq_ok_iff.1 h
      cases hout
      exact .array (forall_of_readItems ih hitems)
    · obtain ⟨⟨members, behind⟩, hmembers, hout⟩ := map_eq_ok_iff.1 h
      cases hout
      exact tidy_ofList (forall_of_readItems (tidy_of_readMember ih) hmembers)
    · exact tidy_of_readScalar h

theorem tidy_of_parse {s : List Char} {v : Json} (h : parse s = .ok v) : Tidy v := by
  obtain ⟨⟨v', behind⟩, hread, hall⟩ := bind_eq_ok_iff.1 h
  dsimp only at hall
  split_ifs at hall
  cases hall
  exact tidy_of_readValue hread

end CouchLoad.Json
