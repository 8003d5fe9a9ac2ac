import CouchLoad.Proofs.Load.Batches
import CouchLoad.Proofs.Server.Steps

/-!
# Databases with more conflicts

What it is to add conflicts to the documents of a database and to change nothing else. Storing
revisions that nobody has seen before comes to this, whatever documents they are for and how often
a document gets one.
-/

namespace CouchLoad

/-- The revisions that stand beside each other in a document. -/
def StoredDocument.leaves (d : StoredDocument) : List Revision :=
  d.rev :: d.conflicts

/-- A document with more conflicts. -/
def StoredDocument.branch (d : StoredDocument) (revs : List Revision) : StoredDocument :=
  { d with conflicts := d.conflicts ++ revs }

@[simp] lemma StoredDocument.branch_nil (d : StoredDocument) : d.branch [] = d := by
  simp [branch]

@[simp] lemma StoredDocument.branch_branch (d : StoredDocument) (revs revs' : List Revision) :
    (d.branch revs).branch revs' = d.branch (revs ++ revs') := by
  simp [branch]

@[simp] lemma StoredDocument.leaves_branch (d : StoredDocument) (revs : List Revision) :
    (d.branch revs).leaves = d.leaves ++ revs := by
  simp [branch, leaves]

lemma StoredDocument.addConflict_of_notMem {d : StoredDocument} {rev : Revision}
    (h : rev ∉ d.leaves) : d.addConflict rev = d.branch [rev] := by
  rw [leaves, List.mem_cons, not_or] at h
  simp [addConflict, branch, Ne.symm h.1, h.2]

/-- Of some conflicts, each with the id of its document, those of one document. -/
def branches (added : List (String × Revision)) (id : String) : List Revision :=
  (added.filter (·.1 = id)).map Prod.snd

@[simp] lemma branches_nil (id : String) : branches [] id = [] := rfl

@[simp] lemma branches_append (added added' : List (String × Revision)) (id : String) :
    branches (added ++ added') id = branches added id ++ branches added' id := by
  simp [branches]

lemma branches_singleton_self (id : String) (rev : Revision) : branches [(id, rev)] id = [rev] := by
  simp [branches]

lemma branches_singleton_of_ne {id id' : String} (h : id' ≠ id) (rev : Revision) :
    branches [(id, rev)] id' = [] := by
  simp [branches, Ne.symm h]

lemma mem_branches_iff {added : List (String × Revision)} {id : String} {rev : Revision} :
    rev ∈ branches added id ↔ (id, rev) ∈ added := by
  simp [branches]

lemma length_branches (added : List (String × Revision)) (id : String) :
    (branches added id).length = (added.map Prod.fst).count id := by
  induction added with
  | nil => rfl
  | cons entry added ih =>
    by_cases h : entry.1 = id <;> simp_all [branches]

namespace Server

/-- The number of all conflicts in a database. -/
def conflictCount (s : Server) (db : String) : Nat :=
  ((s.databases.get? db).map (·.documents.total (·.conflicts.length))).getD 0

/-- No revision in a database has the hash. -/
def Unused (s : Server) (db hash : String) : Prop :=
  ∀ id d, s.document? db id = some d → ∀ rev ∈ d.leaves, rev.hash ≠ hash

lemma unused_of_forall {s : Server} {db hash : String} {database : Database}
    (hdb : s.databases.get? db = some database)
    (h : ∀ entry ∈ database.documents, ∀ rev ∈ entry.2.leaves, rev.hash ≠ hash) :
    s.Unused db hash := by
  intro id d hd
  rw [document?_of_get? hdb] at hd
  exact h (id, d) (Table.mem_of_get? hd)

/-- Conflicts have been added to the documents of a database, each with the id of its document, and
nothing else has changed in the databases. -/
structure Branched (s t : Server) (db : String) (added : List (String × Revision)) : Prop where
  document : ∀ id, t.document? db id = (s.document? db id).map (·.branch (branches added id))
  others : ∀ db', db' ≠ db → t.databases.get? db' = s.databases.get? db'
  security : (t.databases.get? db).map (·.security) = (s.databases.get? db).map (·.security)
  conflictCount : t.conflictCount db = s.conflictCount db + added.length

namespace Branched

variable {s t u : Server} {db : String} {added added' : List (String × Revision)}

lemma of_databases (h : t.databases = s.databases) : s.Branched t db [] where
  document id := by simp [document?, h]
  others db' _ := by rw [h]
  security := by rw [h]
  conflictCount := by simp [Server.conflictCount, h]

lemma trans (h : s.Branched t db added) (h' : t.Branched u db added') :
    s.Branched u db (added ++ added') where
  document id := by
    rw [h'.document, h.document, Option.map_map]
    congr 1
    funext d
    simp
  others db' hdb := (h'.others db' hdb).trans (h.others db' hdb)
  security := h'.security.trans h.security
  conflictCount := by
    rw [h'.conflictCount, h.conflictCount, List.length_append, Nat.add_assoc]

lemma congr_right (h : s.Branched t db added) (ht : u.databases = t.databases) :
    s.Branched u db added := by
  have hsame : t.Branched u db [] := of_databases ht
  have hboth := h.trans hsame
  rwa [List.append_nil] at hboth

lemma isSome_document? (h : s.Branched t db added) (id : String) :
    (t.document? db id).isSome = (s.document? db id).isSome := by
  rw [h.document, Option.isSome_map]

/-- A hash that is none of those that have been added is as unused as it was before. -/
lemma unused (h : s.Branched t db added) {hash : String} (hs : s.Unused db hash)
    (hadded : hash ∉ added.map (·.2.hash)) : t.Unused db hash := by
  intro id d hd rev hrev
  rw [h.document] at hd
  obtain ⟨old, hold, rfl⟩ := Option.map_eq_some_iff.1 hd
  rw [StoredDocument.leaves_branch, List.mem_append] at hrev
  rcases hrev with hrev | hrev
  · exact hs id old hold rev hrev
  · rintro rfl
    exact hadded (List.mem_map_of_mem (mem_branches_iff.1 hrev))

end Branched

/-- One revision that is unused is stored. -/
lemma branched_putDocument {s : Server} {db id : String} {database : Database}
    (hdb : s.databases.get? db = some database) {d : StoredDocument}
    (hd : database.documents.get? id = some d) {rev : Revision} (hrev : s.Unused db rev.hash) :
    s.Branched (s.putDocument db database id (d.addConflict rev)) db [(id, rev)] := by
  have hold : s.document? db id = some d := by rw [document?_of_get? hdb, hd]
  have hnew : rev ∉ d.leaves := fun hmem => hrev id d hold rev hmem rfl
  rw [StoredDocument.addConflict_of_notMem hnew]
  have hputs := puts_putDocument hdb id (d.branch [rev])
  constructor
  · intro id'
    by_cases hid : id' = id
    · subst hid
      rw [hputs.here, hold, branches_singleton_self]
      rfl
    · rw [hputs.elsewhere (Or.inr hid), branches_singleton_of_ne hid]
      simp
  · intro db' hdb'
    exact Table.get?_insert_of_ne _ hdb' _
  · simp [putDocument, putDatabase, Table.get?_insert_self, hdb]
  · have htotal := Table.total_insert (fun d => d.conflicts.length) database.documents id
      (d.branch [rev])
    simp only [hd, Option.map_some, Option.getD_some, StoredDocument.branch, List.length_append,
      List.length_singleton] at htotal
    simp only [conflictCount, putDocument, putDatabase, Table.get?_insert_self, hdb,
      Option.map_some, Option.getD_some, StoredDocument.branch, List.length_singleton]
    omega

/-- Revisions with hashes of their own are all stored, and none of them has a result. -/
lemma branched_replicateEntries {db : String} (entries : List (Document × Revision)) {s : Server}
    (hentries : ∀ entry ∈ entries, entry.1.WellFormed ∧ entry.2.Readable ∧
      (s.document? db entry.1.id).isSome ∧ s.Unused db entry.2.hash)
    (hnodup : (entries.map (·.2.hash)).Nodup) :
    (s.replicateEntries db (conflictBodies entries)).1 = [] ∧
      s.Branched (s.replicateEntries db (conflictBodies entries)).2 db
        (entries.map fun entry => (entry.1.id, entry.2)) := by
  induction entries generalizing s with
  | nil => exact ⟨rfl, .of_databases rfl⟩
  | cons entry entries ih =>
    obtain ⟨d, rev⟩ := entry
    rw [List.forall_mem_cons] at hentries
    obtain ⟨⟨hwell, hread, hsome, hunused⟩, hentries⟩ := hentries
    rw [List.map_cons, List.nodup_cons] at hnodup
    obtain ⟨stored, hstored⟩ := Option.isSome_iff_exists.1 hsome
    obtain ⟨database, hdb, hget⟩ := Option.bind_eq_some_iff.1 hstored
    have hentry := replicateEntry_readable hwell hread hdb hget
    have hfirst := branched_putDocument hdb hget hunused
    -- the revisions behind the first one are still unused when it has been stored
    obtain ⟨hresults, hrest⟩ := ih (s := s.putDocument db database d.id (stored.addConflict rev))
      (by
        intro entry hmem
        obtain ⟨hwell', hread', hsome', hunused'⟩ := hentries entry hmem
        refine ⟨hwell', hread', ?_, hfirst.unused hunused' ?_⟩
        · rwa [hfirst.isSome_document?]
        · rw [List.map_cons, List.map_nil, List.mem_singleton]
          intro heq
          exact hnodup.1 (heq ▸ List.mem_map_of_mem hmem))
      hnodup.2
    simp only [conflictBodies, List.map_cons, replicateEntries, hentry] at hresults hrest ⊢
    exact ⟨hresults, hfirst.trans hrest⟩

end Server

end CouchLoad
