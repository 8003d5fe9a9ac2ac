import CouchLoad.Proofs.Couch.Revision
import CouchLoad.Proofs.Table
import CouchLoad.Server.Write
import Mathlib.Algebra.BigOperators.Intervals
import Mathlib.Logic.Function.Basic

/-!
# Shares of a database

Workers that fill a database together each hold the documents that they have created, and no
worker can change what another one holds. So the database falls into shares. A share also tells how
many revisions its worker has written and how many conflicts it has added; together these are all
the revisions and conflicts of the database.
-/

namespace CouchLoad

/-- What a worker has contributed to a database. -/
structure Share where
  /-- The documents that the worker has created, as they are now. -/
  documents : String → Option StoredDocument := fun _ => none
  writes : Nat := 0
  conflicts : Nat := 0

namespace Share

/-- The share after a revision of a document has been written. -/
def write (g : Share) (id : String) (d : StoredDocument) : Share :=
  { g with documents := Function.update g.documents id (some d), writes := g.writes + 1 }

/-- The share after a conflict has been added to a document. -/
def conflict (g : Share) (id : String) (rev : Revision) : Share :=
  { g with
    documents := Function.update g.documents id ((g.documents id).map (·.addConflict rev))
    conflicts := g.conflicts + 1 }

/-- The current revision of a document of the share. -/
def current (g : Share) (id : String) : Option Revision :=
  (g.documents id).map (·.rev)

@[simp] lemma documents_write_self (g : Share) (id : String) (d : StoredDocument) :
    (g.write id d).documents id = some d := by simp [write]

lemma documents_write_of_ne (g : Share) {id id' : String} (h : id' ≠ id) (d : StoredDocument) :
    (g.write id d).documents id' = g.documents id' := by simp [write, h]

@[simp] lemma writes_write (g : Share) (id : String) (d : StoredDocument) :
    (g.write id d).writes = g.writes + 1 := rfl

@[simp] lemma conflicts_write (g : Share) (id : String) (d : StoredDocument) :
    (g.write id d).conflicts = g.conflicts := rfl

@[simp] lemma current_write_self (g : Share) (id : String) (d : StoredDocument) :
    (g.write id d).current id = some d.rev := by simp [current]

lemma current_write_of_ne (g : Share) {id id' : String} (h : id' ≠ id) (d : StoredDocument) :
    (g.write id d).current id' = g.current id' := by simp [current, documents_write_of_ne g h]

@[simp] lemma documents_conflict_self (g : Share) (id : String) (rev : Revision) :
    (g.conflict id rev).documents id = (g.documents id).map (·.addConflict rev) := by
  simp [conflict]

lemma documents_conflict_of_ne (g : Share) {id id' : String} (h : id' ≠ id) (rev : Revision) :
    (g.conflict id rev).documents id' = g.documents id' := by simp [conflict, h]

@[simp] lemma writes_conflict (g : Share) (id : String) (rev : Revision) :
    (g.conflict id rev).writes = g.writes := rfl

@[simp] lemma conflicts_conflict (g : Share) (id : String) (rev : Revision) :
    (g.conflict id rev).conflicts = g.conflicts + 1 := rfl

end Share

namespace StoredDocument

@[simp] lemma rev_addConflict (d : StoredDocument) (rev : Revision) :
    (d.addConflict rev).rev = d.rev := by
  unfold addConflict
  split <;> rfl

@[simp] lemma history_addConflict (d : StoredDocument) (rev : Revision) :
    (d.addConflict rev).history = d.history := by
  unfold addConflict
  split <;> rfl

@[simp] lemma body_addConflict (d : StoredDocument) (rev : Revision) :
    (d.addConflict rev).body = d.body := by
  unfold addConflict
  split <;> rfl

@[simp] lemma attachments_addConflict (d : StoredDocument) (rev : Revision) :
    (d.addConflict rev).attachments = d.attachments := by
  unfold addConflict
  split <;> rfl

/-- A revision that is neither current nor known becomes a conflict. -/
lemma conflicts_addConflict {d : StoredDocument} {rev : Revision} (h : d.rev ≠ rev)
    (hnew : rev ∉ d.conflicts) : (d.addConflict rev).conflicts = d.conflicts ++ [rev] := by
  simp [addConflict, h, hnew]

/-- A document whose revisions the server has given out, and whose conflicts clients have made
up. -/
structure Sound (hashes : Nat) (forged : List String) (d : StoredDocument) : Prop where
  positive : 0 < d.rev.generation
  generation : d.rev.generation ≤ hashes
  hash : ∃ n ≤ hashes, d.rev.hash = String.ofList (Text.hex 32 n)
  conflicts : ∀ rev ∈ d.conflicts, rev.display ∈ forged

lemma Sound.mono {d : StoredDocument} {hashes hashes' : Nat} {forged forged' : List String}
    (h : d.Sound hashes forged) (hle : hashes ≤ hashes') (hsub : forged ⊆ forged') :
    d.Sound hashes' forged' where
  positive := h.positive
  generation := Nat.le_trans h.generation hle
  hash := by
    obtain ⟨n, hn, heq⟩ := h.hash
    exact ⟨n, Nat.le_trans hn hle, heq⟩
  conflicts rev hrev := hsub (h.conflicts rev hrev)

/-- A document that has one more revision than the one in its place before. -/
structure Succeeds (old : Option StoredDocument) (d : StoredDocument) : Prop where
  generation : d.rev.generation = (old.map (·.rev.generation)).getD 0 + 1
  history : d.history = (old.map (·.history)).getD [] ++ [d.rev]
  conflicts : d.conflicts = (old.map (·.conflicts)).getD []

end StoredDocument

open Finset

/-- The documents of a database fall into the shares of some members. A member only holds
documents of its territory. If all revisions that are made up are different, every one of them has
become a conflict. -/
structure Shared (members : Nat) (territory : Nat → String → Prop) (distinct : Prop)
    (documents : Table StoredDocument) (hashes : Nat) (forged : List String)
    (G : Nat → Share) : Prop where
  nodup : documents.keys.Nodup
  sound : ∀ id d, documents.get? id = some d → d.Sound hashes forged
  held : ∀ place id d, (G place).documents id = some d →
    place < members ∧ territory place id ∧ documents.get? id = some d
  holder : ∀ id d, documents.get? id = some d → ∃ place, (G place).documents id = some d
  apart : ∀ place place' id d d', (G place).documents id = some d →
    (G place').documents id = some d' → place = place'
  writes : documents.total (·.history.length) = ∑ place ∈ range members, (G place).writes
  conflicts : distinct →
    documents.total (·.conflicts.length) = ∑ place ∈ range members, (G place).conflicts

namespace Shared

variable {members : Nat} {territory : Nat → String → Prop} {distinct : Prop}
  {documents : Table StoredDocument} {hashes : Nat} {forged : List String} {G : Nat → Share}

/-- An empty database falls into empty shares. -/
lemma empty : Shared members territory distinct [] hashes forged fun _ => {} where
  nodup := List.nodup_nil
  sound _ _ h := by cases h
  held _ _ _ h := by cases h
  holder _ _ h := by cases h
  apart _ _ _ _ _ h := by cases h
  writes := by simp [Table.total]
  conflicts _ := by simp [Table.total]

/-- More hashes and more revisions that are made up change no share. -/
lemma mono (h : Shared members territory distinct documents hashes forged G) {hashes' : Nat}
    {forged' : List String} (hle : hashes ≤ hashes') (hsub : forged ⊆ forged') :
    Shared members territory distinct documents hashes' forged' G :=
  { h with sound := fun id d hd => (h.sound id d hd).mono hle hsub }

/-- A sum over shares, one of which changes. -/
lemma sum_update (f : Share → Nat) (G : Nat → Share) {place : Nat} (hplace : place < members)
    (g : Share) :
    ∑ i ∈ range members, f (Function.update G place g i) + f (G place) =
      ∑ i ∈ range members, f (G i) + f g := by
  have hmem : place ∈ range members := mem_range.2 hplace
  rw [← add_sum_erase _ _ hmem, ← add_sum_erase _ (fun i => f (G i)) hmem, Function.update_self]
  have hrest : ∑ i ∈ (range members).erase place, f (Function.update G place g i) =
      ∑ i ∈ (range members).erase place, f (G i) :=
    sum_congr rfl fun i hi => by rw [Function.update_of_ne (ne_of_mem_erase hi)]
  rw [hrest]
  omega

/-- After a write, a share holds the document that was written, or what it held before. -/
lemma documents_update (h : Shared members territory distinct documents hashes forged G)
    {place : Nat} {id : String} {d : StoredDocument} {g : Share}
    (hid : documents.get? id = (G place).documents id)
    (hdocuments : g.documents = Function.update (G place).documents id (some d))
    {i : Nat} {id' : String} {d' : StoredDocument}
    (hd' : (Function.update G place g i).documents id' = some d') :
    (id' = id ∧ i = place ∧ d' = d) ∨ (id' ≠ id ∧ (G i).documents id' = some d') := by
  by_cases hi : i = place
  · subst hi
    rw [Function.update_self, hdocuments] at hd'
    by_cases heq : id' = id
    · subst heq
      rw [Function.update_self, Option.some.injEq] at hd'
      exact Or.inl ⟨rfl, rfl, hd'.symm⟩
    · rw [Function.update_of_ne heq] at hd'
      exact Or.inr ⟨heq, hd'⟩
  · rw [Function.update_of_ne hi] at hd'
    refine Or.inr ⟨?_, hd'⟩
    rintro rfl
    -- the document would be in two shares
    have hget := (h.held i id' d' hd').2.2
    rw [hid] at hget
    exact hi (h.apart i place id' d' d' hd' hget)

/-- A document of a share, or one that nobody holds, is replaced. -/
lemma put (h : Shared members territory distinct documents hashes forged G) {place : Nat}
    {id : String} {d : StoredDocument} {g : Share} (hplace : place < members)
    (hterritory : territory place id) (hid : documents.get? id = (G place).documents id)
    (hsound : d.Sound hashes forged)
    (hdocuments : g.documents = Function.update (G place).documents id (some d))
    (hwrites : g.writes + (((G place).documents id).map (·.history.length)).getD 0 =
      (G place).writes + d.history.length)
    (hconflicts : distinct →
      g.conflicts + (((G place).documents id).map (·.conflicts.length)).getD 0 =
        (G place).conflicts + d.conflicts.length) :
    Shared members territory distinct (documents.insert id d) hashes forged
      (Function.update G place g) := by
  refine ⟨Table.nodup_keys_insert h.nodup _ _, ?_, ?_, ?_, ?_, ?_, ?_⟩
  · intro id' d' hd'
    rw [Table.get?_insert] at hd'
    split at hd'
    · cases hd'
      exact hsound
    · exact h.sound id' d' hd'
  · intro i id' d' hd'
    rcases h.documents_update hid hdocuments hd' with ⟨rfl, rfl, rfl⟩ | ⟨hne, hd'⟩
    · exact ⟨hplace, hterritory, Table.get?_insert_self ..⟩
    · obtain ⟨hi, hterr, hget⟩ := h.held i id' d' hd'
      exact ⟨hi, hterr, by rw [Table.get?_insert_of_ne _ hne, hget]⟩
  · intro id' d' hd'
    rw [Table.get?_insert] at hd'
    split at hd'
    · cases hd'
      rename_i heq
      subst heq
      exact ⟨place, by rw [Function.update_self, hdocuments, Function.update_self]⟩
    · rename_i hne
      obtain ⟨i, hi⟩ := h.holder id' d' hd'
      refine ⟨i, ?_⟩
      by_cases heq : i = place
      · subst heq
        rw [Function.update_self, hdocuments, Function.update_of_ne (Ne.symm hne), hi]
      · rw [Function.update_of_ne heq, hi]
  · intro i j id' d₁ d₂ h₁ h₂
    rcases h.documents_update hid hdocuments h₁ with ⟨rfl, rfl, -⟩ | ⟨hne, h₁⟩
    · rcases h.documents_update hid hdocuments h₂ with ⟨-, rfl, -⟩ | ⟨hne, -⟩
      · rfl
      · exact absurd rfl hne
    · rcases h.documents_update hid hdocuments h₂ with ⟨rfl, -, -⟩ | ⟨-, h₂⟩
      · exact absurd rfl hne
      · exact h.apart i j id' d₁ d₂ h₁ h₂
  · have htotal := Table.total_insert (fun d : StoredDocument => d.history.length) documents id d
    have hsum := sum_update (·.writes) G hplace g
    rw [hid] at htotal
    have := h.writes
    omega
  · intro hdistinct
    have htotal := Table.total_insert (fun d : StoredDocument => d.conflicts.length) documents id d
    have hsum := sum_update (·.conflicts) G hplace g
    rw [hid] at htotal
    have := h.conflicts hdistinct
    have := hconflicts hdistinct
    omega

end Shared

end CouchLoad
