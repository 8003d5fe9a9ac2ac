import CouchLoad.Proofs.Couch.Revision
import CouchLoad.Proofs.Document.Body
import CouchLoad.Proofs.Load.Share

/-!
# Writing to a shared database

What one write of a member does to the shares. A member writes without a revision, or on top of the
revision of a document that it holds. Such a write is accepted just if it names what the share of
the member says; it can only fail otherwise if the id belongs to another member, too.
-/

namespace CouchLoad

namespace StoredDocument

lemma Sound.readable {hashes : Nat} {forged : List String} {d : StoredDocument}
    (h : d.Sound hashes forged) (hlt : hashes < 2 ^ 64) : d.rev.Readable where
  positive := h.positive
  generation := Nat.lt_of_le_of_lt h.generation hlt
  hash := by
    obtain ⟨n, -, heq⟩ := h.hash
    rw [heq]
    intro hnil
    exact Text.hex_ne_nil 32 n (by simpa using congrArg String.toList hnil)

/-- A sibling that a client makes up has a hash that the server does not give out. -/
lemma Sound.rev_ne_sibling {hashes : Nat} {forged : List String} {d : StoredDocument}
    (h : d.Sound hashes forged) (hlt : hashes < 2 ^ 64) (u : Entropy.Uuid) :
    d.rev ≠ d.rev.conflictingSibling u := by
  intro heq
  obtain ⟨n, hn, hhash⟩ := h.hash
  have hsimple : u.simple = d.rev.hash := congrArg Revision.hash heq.symm
  exact u.simple_ne_counter (Nat.lt_of_le_of_lt hn hlt) (hsimple.trans hhash)

lemma succeeds_create (hash : String) (body : Json) : (create hash body).Succeeds none :=
  ⟨rfl, rfl, rfl⟩

lemma succeeds_update (d : StoredDocument) (hash : String) (body : Json) :
    (d.update hash body).Succeeds (some d) := ⟨rfl, rfl, rfl⟩

lemma succeeds_advance (d : StoredDocument) (hash : String)
    (attachments : List (String × StoredAttachment)) :
    ((d.advance hash).attach attachments).Succeeds (some d) := ⟨rfl, rfl, rfl⟩

/-- The server gives the next revision a hash of its own. -/
lemma Succeeds.sound {old : Option StoredDocument} {d : StoredDocument} {hashes : Nat}
    {forged : List String} (h : d.Succeeds old) (hold : ∀ e, old = some e → e.Sound hashes forged)
    (hhash : d.rev.hash = String.ofList (Text.hex 32 (hashes + 1))) :
    d.Sound (hashes + 1) forged where
  positive := by
    rw [h.generation]
    exact Nat.succ_pos _
  generation := by
    rw [h.generation]
    cases old with
    | none => simp
    | some e => exact Nat.succ_le_succ (hold e rfl).generation
  hash := ⟨hashes + 1, Nat.le_refl _, hhash⟩
  conflicts rev hrev := by
    rw [h.conflicts] at hrev
    cases old with
    | none => cases hrev
    | some e => exact (hold e rfl).conflicts rev hrev

end StoredDocument

namespace Shared

variable {members : Nat} {territory : Nat → String → Prop} {distinct : Prop}
  {documents : Table StoredDocument} {hashes : Nat} {forged : List String} {G : Nat → Share}
  {place : Nat} {id : String}

lemma get?_eq (h : Shared members territory distinct documents hashes forged G)
    {d : StoredDocument} (hd : (G place).documents id = some d) : documents.get? id = some d :=
  (h.held place id d hd).2.2

/-- The revision that a member has just got can be read from its text. -/
lemma readable_write {g : Share} {d : StoredDocument}
    (h : Shared members territory distinct documents hashes forged
      (Function.update G place (g.write id d))) (hlt : hashes < 2 ^ 64) : d.rev.Readable := by
  have hheld : (Function.update G place (g.write id d) place).documents id = some d := by simp
  exact (h.sound _ _ (h.get?_eq hheld)).readable hlt

lemma documents_eq_none (h : Shared members territory distinct documents hashes forged G)
    (place : Nat) (hnone : documents.get? id = none) : (G place).documents id = none := by
  cases hd : (G place).documents id with
  | none => rfl
  | some d => rw [h.get?_eq hd] at hnone; cases hnone

/-- A document that is there but not in a share belongs to another member. -/
lemma contested (h : Shared members territory distinct documents hashes forged G)
    {d : StoredDocument} (hd : documents.get? id = some d) (hnone : (G place).documents id = none) :
    ∃ other, other ≠ place ∧ territory other id := by
  obtain ⟨other, hother⟩ := h.holder id d hd
  refine ⟨other, ?_, (h.held other id d hother).2.1⟩
  rintro rfl
  rw [hnone] at hother
  cases hother

/-- A share after the next revision of a document. -/
lemma write (h : Shared members territory distinct documents hashes forged G)
    (hplace : place < members) (hterritory : territory place id)
    (hid : documents.get? id = (G place).documents id) {d : StoredDocument}
    (hd : d.Succeeds ((G place).documents id))
    (hhash : d.rev.hash = String.ofList (Text.hex 32 (hashes + 1))) :
    Shared members territory distinct (documents.insert id d) (hashes + 1) forged
      (Function.update G place ((G place).write id d)) := by
  refine (h.mono (Nat.le_succ _) (List.Subset.refl _)).put hplace hterritory hid ?_ rfl ?_ ?_
  · exact hd.sound (fun e he => h.sound id e (hid.trans he)) hhash
  · rw [hd.history, Share.writes_write]
    cases (G place).documents id <;> simp
    omega
  · intro _
    rw [hd.conflicts, Share.conflicts_write]
    cases (G place).documents id <;> simp

/-- A share after a conflict has been added. -/
lemma conflict (h : Shared members territory distinct documents hashes forged G)
    {d : StoredDocument} (hd : (G place).documents id = some d) {rev : Revision}
    (hnew : distinct → d.rev ≠ rev ∧ rev ∉ d.conflicts) :
    Shared members territory distinct (documents.insert id (d.addConflict rev)) hashes
      (forged ++ [rev.display]) (Function.update G place ((G place).conflict id rev)) := by
  obtain ⟨hplace, hterritory, hget⟩ := h.held place id d hd
  have hsound := h.sound id d hget
  have hsub : forged ⊆ forged ++ [rev.display] := List.subset_append_left ..
  refine (h.mono (Nat.le_refl _) hsub).put hplace hterritory (hget.trans hd.symm) ?_ ?_ ?_ ?_
  · refine ⟨by simpa using hsound.positive, by simpa using hsound.generation,
      by simpa using hsound.hash, ?_⟩
    intro rev' hrev'
    unfold StoredDocument.addConflict at hrev'
    split at hrev'
    · rcases List.mem_append.1 hrev' with hrev' | hrev'
      · exact hsub (hsound.conflicts rev' hrev')
      · rw [List.mem_singleton.1 hrev']
        simp
    · exact hsub (hsound.conflicts rev' hrev')
  · simp [Share.conflict, hd]
  · simp [hd]
  · intro hdistinct
    obtain ⟨hne, hnotMem⟩ := hnew hdistinct
    rw [hd, StoredDocument.conflicts_addConflict hne hnotMem]
    simp
    omega

end Shared

/-! ### Single writes -/

section Writes

variable {members : Nat} {territory : Nat → String → Prop} {distinct : Prop}
  {documents : Table StoredDocument} {forged : List String} {G : Nat → Share}
  {place : Nat} {id db : String} {base : Table Database} {security : Option Json} {s : Server}

/-- A write of a document is accepted if it names what the share says. -/
lemma Shared.writeDocument
    (h : Shared members territory distinct documents s.hashes forged G)
    (hs : s.databases = base.insert db { documents, security })
    (hplace : place < members) (hterritory : territory place id) {rev : Option String}
    (hrev : rev = none ∨ ((G place).documents id).isSome) (body : Json) :
    ∃ documents', (s.writeDocument db id rev body).2.databases =
        base.insert db { documents := documents', security } ∧
      ((∃ d : StoredDocument, (s.writeDocument db id rev body).1 = .ok d.rev ∧
          d.Succeeds ((G place).documents id) ∧ d.body = StoredDocument.fieldsOf body ∧
          ((G place).current id).map Revision.display = rev ∧
          Shared members territory distinct documents' (s.writeDocument db id rev body).2.hashes
            forged (Function.update G place ((G place).write id d))) ∨
        (s.writeDocument db id rev body).1 = .error .conflict ∧
          (((G place).current id).map Revision.display ≠ rev ∨
            ∃ other, other ≠ place ∧ territory other id) ∧
          Shared members territory distinct documents' (s.writeDocument db id rev body).2.hashes
            forged G) := by
  have hget : s.databases.get? db = some { documents, security } := by
    rw [hs, Table.get?_insert_self]
  have hinsert : ∀ database : Database, s.databases.insert db database = base.insert db database :=
    fun database => by rw [hs, Table.insert_insert]
  have hmono := h.mono (Nat.le_succ s.hashes) (List.Subset.refl forged)
  unfold Server.writeDocument Server.freshHash
  simp only [hget]
  cases hdoc : documents.get? id with
  | none =>
    have hnone := h.documents_eq_none place hdoc
    cases rev with
    | some rev =>
      rw [hnone] at hrev
      simp at hrev
    | none =>
      refine ⟨_, hinsert _, Or.inl ⟨_, rfl, ?_, rfl, by simp [Share.current, hnone], ?_⟩⟩
      · rw [hnone]
        exact StoredDocument.succeeds_create ..
      · refine h.write hplace hterritory (hdoc.trans hnone.symm) ?_ rfl
        rw [hnone]
        exact StoredDocument.succeeds_create ..
  | some d =>
    cases rev with
    | none =>
      refine ⟨_, hs, Or.inr ⟨rfl, ?_, hmono⟩⟩
      cases hown : (G place).documents id with
      | none => exact Or.inr (h.contested hdoc hown)
      | some e => exact Or.inl (by simp [Share.current, hown])
    | some rev =>
      obtain ⟨e, he⟩ := Option.isSome_iff_exists.1 (hrev.resolve_left (by simp))
      have hde : d = e := by
        rw [h.get?_eq he, Option.some.injEq] at hdoc
        exact hdoc.symm
      subst hde
      simp only
      split
      · rename_i heq
        refine ⟨_, hinsert _, Or.inl ⟨_, rfl, ?_, rfl, by simp [Share.current, he, heq], ?_⟩⟩
        · rw [he]
          exact StoredDocument.succeeds_update ..
        · refine h.write hplace hterritory (hdoc.trans he.symm) ?_ rfl
          rw [he]
          exact StoredDocument.succeeds_update ..
      · rename_i hne
        exact ⟨_, hs, Or.inr ⟨rfl, Or.inl (by simpa [Share.current, he] using hne), hmono⟩⟩

/-- An attachment on top of the revision that the share says is accepted. -/
lemma Shared.writeAttachment
    (h : Shared members territory distinct documents s.hashes forged G)
    (hs : s.databases = base.insert db { documents, security }) {rev : Revision}
    (hrev : (G place).current id = some rev) (name : String) (a : StoredAttachment) :
    ∃ documents' d, (s.writeAttachment db id name (some rev.display) a).2.databases =
        base.insert db { documents := documents', security } ∧
      (s.writeAttachment db id name (some rev.display) a).1 = .ok d.rev ∧
      d.Succeeds ((G place).documents id) ∧
      Shared members territory distinct documents'
        (s.writeAttachment db id name (some rev.display) a).2.hashes forged
        (Function.update G place ((G place).write id d)) := by
  have hget : s.databases.get? db = some { documents, security } := by
    rw [hs, Table.get?_insert_self]
  obtain ⟨e, he, rfl⟩ := Option.map_eq_some_iff.1 hrev
  obtain ⟨hplace, hterritory, hdoc⟩ := h.held place id e he
  unfold Server.writeAttachment Server.freshHash
  simp only [hget, hdoc, if_true]
  have hd := StoredDocument.succeeds_advance e (String.ofList (Text.hex 32 (s.hashes + 1)))
    [(name, a)]
  rw [← he] at hd
  refine ⟨_, _, ?_, rfl, hd, h.write hplace hterritory (hdoc.trans he.symm) hd rfl⟩
  rw [Server.putDocument, Server.putDatabase, hs, Table.insert_insert]

end Writes

end CouchLoad
