import CouchLoad.Proofs.Server.Updates

/-!
# Which writes are accepted

A write is accepted just if it names what is current. Then it puts the next revision in its place,
and otherwise it takes a hash and changes nothing else.
-/

namespace CouchLoad.Server

/-- A write to a place names what is current there, in a database that exists. -/
structure Names (s : Server) (db id : String) (rev : Option String) : Prop where
  database : s.databases.contains db = true
  current : currentText (s.document? db id) = rev

lemma exists_get?_of_contains {s : Server} {db : String} (h : s.databases.contains db = true) :
    ∃ database, s.databases.get? db = some database :=
  Option.isSome_iff_exists.1 h

lemma contains_of_get? {s : Server} {db : String} {database : Database}
    (h : s.databases.get? db = some database) : s.databases.contains db = true := by
  simp [Table.contains, h]

lemma names_iff {s : Server} {db id : String} {rev : Option String} {database : Database}
    (h : s.databases.get? db = some database) :
    s.Names db id rev ↔ currentText (database.documents.get? id) = rev := by
  rw [← document?_of_get? h]
  exact ⟨fun hnames => hnames.current, fun hcurrent => ⟨contains_of_get? h, hcurrent⟩⟩

/-- Whether a write names what is current depends on its database and its document alone. -/
lemma Names.congr {s t : Server} {db id : String} {rev : Option String} (h : s.Names db id rev)
    (hcontains : t.databases.contains db = s.databases.contains db)
    (hdocument : t.document? db id = s.document? db id) : t.Names db id rev := by
  constructor
  · rw [hcontains]
    exact h.database
  · rw [hdocument]
    exact h.current

/-- The next revision of a document is put in its place, with a hash of its own. -/
structure Advances (s : Server) (db id : String) (d : StoredDocument) (t : Server) : Prop where
  succeeds : d.Succeeds (s.document? db id)
  hash : d.rev.hash = s.freshHash.1
  puts : ∃ database, s.databases.get? db = some database ∧
    t = s.freshHash.2.putDocument db database id d

/-- What comes of a write: it is accepted if it is as it should be, and refused otherwise. -/
inductive Tries (s : Server) (db id : String) (proper : Prop) :
    Except Refusal Revision × Server → Prop where
  | accept (h : proper) {d : StoredDocument} {t : Server} (advances : s.Advances db id d t) :
      Tries s db id proper (.ok d.rev, t)
  | refuse (h : ¬proper) (refusal : Refusal) :
      Tries s db id proper (.error refusal, s.freshHash.2)

lemma tries_of_putDocument {s : Server} {db id : String} {proper : Prop} (h : proper)
    {database : Database} {d : StoredDocument} (hdb : s.databases.get? db = some database)
    (hsucceeds : d.Succeeds (database.documents.get? id)) (hhash : d.rev.hash = s.freshHash.1) :
    s.Tries db id proper (.ok d.rev, s.freshHash.2.putDocument db database id d) := by
  rw [← document?_of_get? hdb] at hsucceeds
  exact .accept h ⟨hsucceeds, hhash, database, hdb, rfl⟩

/-- A document is written if the write names what is current. -/
lemma tries_writeDocument (s : Server) (db id : String) (rev : Option String) (body : Json) :
    s.Tries db id (s.Names db id rev) (s.writeDocument db id rev body) := by
  unfold writeDocument
  simp only
  split
  · rename_i hdb
    refine .refuse (fun h => ?_) _
    have hcontains := h.database
    rw [Table.contains, show s.databases.get? db = none from hdb] at hcontains
    cases hcontains
  · rename_i database hdb
    rw [names_iff (s := s) hdb]
    split
    · rename_i hid
      refine tries_of_putDocument (by rw [hid]; rfl) hdb ?_ rfl
      rw [hid]
      exact StoredDocument.succeeds_create ..
    · rename_i d rev hid
      rw [hid]
      split
      · rename_i hrev
        refine tries_of_putDocument (congrArg some hrev) hdb ?_ rfl
        rw [hid]
        exact StoredDocument.succeeds_update ..
      · rename_i hrev
        exact .refuse (fun h => hrev (Option.some.inj h)) _
    · rename_i hnone hsome
      refine .refuse (fun h => ?_) _
      cases hid : database.documents.get? id with
      | none =>
        rw [hid] at h
        exact hnone hid h.symm
      | some d =>
        rw [hid] at h
        exact hsome d _ hid h.symm

/-- An attachment is written if the write names what is current, and a document has to be there. -/
lemma tries_writeAttachment (s : Server) (db id name : String) (rev : Option String)
    (attachment : StoredAttachment) :
    s.Tries db id (rev.isSome ∧ s.Names db id rev)
      (s.writeAttachment db id name rev attachment) := by
  unfold writeAttachment
  simp only
  split
  · rename_i hdb
    refine .refuse (fun h => ?_) _
    have hcontains := h.2.database
    rw [Table.contains, show s.databases.get? db = none from hdb] at hcontains
    cases hcontains
  · rename_i database hdb
    rw [names_iff (s := s) hdb]
    split
    · rename_i hid
      rw [hid]
      refine .refuse ?_ _
      rintro ⟨hsome, rfl⟩
      cases hsome
    · rename_i d hid
      rw [hid]
      split
      · rename_i hrev
        refine tries_of_putDocument ⟨by rw [hrev]; rfl, hrev.symm⟩ hdb ?_ rfl
        rw [hid]
        exact StoredDocument.succeeds_advance ..
      · rename_i hrev
        exact .refuse (fun h => hrev h.2.symm) _

/-! ### Places after a write -/

namespace Advances

variable {s t : Server} {db id : String} {d : StoredDocument}

lemma putsDocument (h : s.Advances db id d t) : Puts s t db id d := by
  obtain ⟨database, hdb, rfl⟩ := h.puts
  have hputs := puts_putDocument (s := s.freshHash.2) hdb id d
  exact ⟨hputs.here, hputs.elsewhere⟩

lemma contains (h : s.Advances db id d t) (db' : String) :
    t.databases.contains db' = s.databases.contains db' := by
  obtain ⟨database, hdb, rfl⟩ := h.puts
  by_cases hdb' : db' = db
  · subst hdb'
    simp [putDocument, putDatabase, Table.contains, Table.get?_insert_self, hdb]
  · simp [putDocument, putDatabase, Table.contains, Table.get?_insert_of_ne _ hdb', freshHash]

/-- What was current before is not current any more. -/
lemma not_names (h : s.Advances db id d t) {rev : Option String} (hs : s.Names db id rev) :
    ¬t.Names db id rev := by
  intro ht
  have hcurrent := hs.current.trans ht.current.symm
  rw [h.putsDocument.here] at hcurrent
  exact absurd (level_eq_of_currentText hcurrent) (Nat.ne_of_lt (level_lt_of_succeeds h.succeeds))

end Advances

end CouchLoad.Server
