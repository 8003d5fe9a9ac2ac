import CouchLoad.Couch.BulkResult
import CouchLoad.Proofs.Load.Writing
import CouchLoad.Proofs.Server.Frame

/-!
# Writing batches to a shared database

The entries of a batch are written one after the other, and each is accepted or refused by itself.
The results tell which: one for each entry, in their order. Where revisions are stored as they are
there is nothing to refuse, because a conflict is only made for a document that its member holds.
-/

namespace CouchLoad

namespace Share

/-- What has become of the documents of a batch, and of the share that they belong to. A refused
document does not name what the share says, or others may hold it. -/
inductive Written (contested : String → Prop) :
    Share → List Document → List (Option Revision) → Share → Prop
  | nil (g : Share) : Written contested g [] [] g
  | accept {g g' : Share} {d : Document} {ds : List Document} {revs : List (Option Revision)}
      (stored : StoredDocument) (current : (g.current d.id).map Revision.display = d.rev)
      (succeeds : stored.Succeeds (g.documents d.id)) (body : stored.body = d.fields)
      (rest : Written contested (g.write d.id stored) ds revs g') :
      Written contested g (d :: ds) (some stored.rev :: revs) g'
  | refuse {g g' : Share} {d : Document} {ds : List Document} {revs : List (Option Revision)}
      (reason : (g.current d.id).map Revision.display ≠ d.rev ∨ contested d.id)
      (rest : Written contested g ds revs g') :
      Written contested g (d :: ds) (none :: revs) g'

/-- Conflicts that have been added to documents of a share. -/
inductive Conflicted (distinct : Prop) : Share → List (Document × Revision) → Share → Prop
  | nil (g : Share) : Conflicted distinct g [] g
  | cons {g g' : Share} {d : Document} {rev : Revision} {rest : List (Document × Revision)}
      (stored : StoredDocument) (held : g.documents d.id = some stored)
      (added : distinct → (stored.addConflict rev).conflicts = stored.conflicts ++ [rev])
      (sibling : ∃ u, rev = stored.rev.conflictingSibling u)
      (others : Conflicted distinct (g.conflict d.id rev) rest g') :
      Conflicted distinct g ((d, rev) :: rest) g'

/-- A document that a member may write: it names no revision, or the member holds it. -/
structure Admits (g : Share) (d : Document) : Prop where
  wellFormed : d.WellFormed
  rev : d.rev = none ∨ (g.documents d.id).isSome

lemma isSome_write {g : Share} {id : String} (h : (g.documents id).isSome) (id' : String)
    (d : StoredDocument) : ((g.write id' d).documents id).isSome := by
  by_cases heq : id = id'
  · subst heq
    simp
  · rwa [documents_write_of_ne g heq]

lemma Admits.write {g : Share} {d : Document} (h : g.Admits d) (id : String)
    (stored : StoredDocument) : (g.write id stored).Admits d :=
  ⟨h.wellFormed, h.rev.imp_right fun hsome => isSome_write hsome id stored⟩

/-- Conflicts leave the current revisions as they are. -/
lemma current_conflict (g : Share) (id : String) (rev : Revision) :
    (g.conflict id rev).current = g.current := by
  funext id'
  by_cases heq : id' = id
  · subst heq
    cases h : g.documents id' <;> simp [current, h]
  · simp [current, documents_conflict_of_ne g heq]

end Share

/-! ### Results -/

namespace BulkResult

lemma ofJson?_written (id : String) (rev : Revision) :
    ofJson? (Server.written id rev) = some ⟨some id, some rev.display, none, none⟩ := by
  simp [ofJson?, Server.written, Json.field, Table.get?_cons, Table.get?_nil, optionalString?]

lemma ofJson?_unwritten (id error reason : String) :
    ofJson? (Server.unwritten id error reason) =
      some ⟨some id, none, some error, some reason⟩ := by
  simp [ofJson?, Server.unwritten, Json.field, Table.get?_cons, Table.get?_nil, optionalString?]

/-- The result of a write that was accepted tells the new revision. -/
lemma revision?_written (id : String) {rev : Revision} (h : rev.Readable) :
    revision? ⟨some id, some rev.display, none, none⟩ = some rev := by
  simp [revision?, Revision.parse?_display h.positive h.generation h.hash]

lemma listOfJson?_cons {v : Json} {vs : List Json} {r : BulkResult} {rs : List BulkResult}
    (h : ofJson? v = some r) (hs : listOfJson? (.array vs) = some rs) :
    listOfJson? (.array (v :: vs)) = some (r :: rs) := by
  unfold listOfJson? at hs ⊢
  simp [h, hs]

end BulkResult

/-! ### Batches -/

section Batches

variable {members : Nat} {territory : Nat → String → Prop} {distinct : Prop}
  {documents : Table StoredDocument} {forged : List String} {G : Nat → Share}
  {place : Nat} {db : String} {base : Table Database} {security : Option Json} {s : Server}

/-- The entry of a document is written under its id, on top of the revision that it names. -/
lemma Server.writeEntry_ok {entry : Json} {d : Document} (h : Document.ReadsAs entry d)
    {rev : Revision} (hok : (s.writeDocument db d.id d.rev entry).1 = .ok rev) :
    s.writeEntry db entry =
      (Server.written d.id rev, (s.writeDocument db d.id d.rev entry).2) := by
  have hid : s.entryId entry = (d.id, s) := by rw [entryId, h.id]
  cases hout : s.writeDocument db d.id d.rev entry with
  | mk out t =>
    rw [hout] at hok
    simp only at hok
    simp [writeEntry, hid, h.rev, hout, hok]

/-- All that a refused entry is told is that there is a conflict. -/
lemma Server.writeEntry_error {entry : Json} {d : Document} (h : Document.ReadsAs entry d)
    {e : Refusal} (herror : (s.writeDocument db d.id d.rev entry).1 = .error e) :
    s.writeEntry db entry =
      (Server.unwritten d.id Refusal.conflict.error Refusal.conflict.reason,
        (s.writeDocument db d.id d.rev entry).2) := by
  have hid : s.entryId entry = (d.id, s) := by rw [entryId, h.id]
  cases hout : s.writeDocument db d.id d.rev entry with
  | mk out t =>
    rw [hout] at herror
    simp only at herror
    simp [writeEntry, hid, h.rev, hout, herror]

/-- What writing a batch does to the share of its member. -/
lemma Shared.writeEntries (batch : List Document) (hplace : place < members)
    (h : Shared members territory distinct documents s.hashes forged G)
    (hs : s.databases = base.insert db { documents, security })
    (hbatch : ∀ d ∈ batch, (G place).Admits d ∧ territory place d.id)
    (hin : (s.writeEntries db (batch.map Document.bulkBody)).2.hashes < 2 ^ 64) :
    ∃ documents' g' results, (s.writeEntries db (batch.map Document.bulkBody)).2.databases =
        base.insert db { documents := documents', security } ∧
      Shared members territory distinct documents'
        (s.writeEntries db (batch.map Document.bulkBody)).2.hashes forged
        (Function.update G place g') ∧
      BulkResult.listOfJson? (.array (s.writeEntries db (batch.map Document.bulkBody)).1) =
        some results ∧
      (G place).Written (fun id => ∃ other, other ≠ place ∧ territory other id) batch
        (results.map BulkResult.revision?) g' := by
  induction batch generalizing s documents G with
  | nil =>
    refine ⟨documents, G place, [], hs, ?_, rfl, Share.Written.nil _⟩
    rw [Function.update_eq_self]
    exact h
  | cons d ds ih =>
    obtain ⟨hadmits, hterritory⟩ := hbatch d List.mem_cons_self
    have hreads := hadmits.wellFormed.bulkBody_readsAs
    obtain ⟨documents₁, hs₁, hcases⟩ :=
      h.writeDocument hs hplace hterritory hadmits.rev d.bulkBody
    simp only [List.map_cons, Server.writeEntries] at hin ⊢
    rcases hcases with ⟨stored, hok, hsucc, hbody, hcurrent, hshared⟩ | ⟨herror, hreason, hshared⟩
    · rw [Server.writeEntry_ok hreads hok] at hin ⊢
      have hle := (Server.precedes_writeEntries (s.writeDocument db d.id d.rev d.bulkBody).2 db
        (ds.map Document.bulkBody)).hashes
      have hreadable := hshared.readable_write (Nat.lt_of_le_of_lt hle hin)
      obtain ⟨documents₂, g', results, hs₂, hshared₂, hresults, hwritten⟩ := ih hshared hs₁
        (fun e he => by
          obtain ⟨hadmits', hterritory'⟩ := hbatch e (List.mem_cons_of_mem _ he)
          rw [Function.update_self]
          exact ⟨hadmits'.write _ _, hterritory'⟩) hin
      rw [Function.update_self] at hwritten
      rw [Function.update_idem] at hshared₂
      refine ⟨documents₂, g', _, hs₂, hshared₂,
        BulkResult.listOfJson?_cons (BulkResult.ofJson?_written _ _) hresults, ?_⟩
      rw [List.map_cons, BulkResult.revision?_written _ hreadable]
      exact Share.Written.accept stored hcurrent hsucc (hbody.trans hreads.fields) hwritten
    · rw [Server.writeEntry_error hreads herror] at hin ⊢
      obtain ⟨documents₂, g', results, hs₂, hshared₂, hresults, hwritten⟩ := ih hshared hs₁
        (fun e he => hbatch e (List.mem_cons_of_mem _ he)) hin
      exact ⟨documents₂, g', _, hs₂, hshared₂,
        BulkResult.listOfJson?_cons (BulkResult.ofJson?_unwritten _ _ _) hresults,
        Share.Written.refuse hreason hwritten⟩

/-! ### Conflicts -/

/-- The bodies of documents that name given revisions. -/
def conflictBodies (entries : List (Document × Revision)) : List Json :=
  entries.map fun (d, rev) => { d with rev := some rev.display }.bulkBody

/-- A conflict that a member may make: a sibling of the current revision of its document. -/
structure Share.Forges (g : Share) (entry : Document × Revision) : Prop where
  wellFormed : entry.1.WellFormed
  sibling : ∃ rev u, g.current entry.1.id = some rev ∧ entry.2 = rev.conflictingSibling u

lemma Share.Forges.conflict {g : Share} {entry : Document × Revision} (h : g.Forges entry)
    (id : String) (rev : Revision) : (g.conflict id rev).Forges entry :=
  ⟨h.wellFormed, by rw [Share.current_conflict]; exact h.sibling⟩

/-- A revision of a document that is there is stored beside the current one, and no result is
given. -/
lemma Server.replicateEntry_readable {d : Document} (hwell : d.WellFormed) {rev : Revision}
    (hrev : rev.Readable) {database : Database} (hdb : s.databases.get? db = some database)
    {stored : StoredDocument} (hstored : database.documents.get? d.id = some stored) :
    s.replicateEntry db { d with rev := some rev.display }.bulkBody =
      (none, s.putDocument db database d.id (stored.addConflict rev)) := by
  have hreads := (hwell.withRev (some rev.display)).bulkBody_readsAs
  have hparse := Revision.parse?_display hrev.positive hrev.generation hrev.hash
  simp [replicateEntry, hreads.id, hreads.rev, hparse, hdb, hstored]

/-- What storing conflicts does to the share of their member. Nothing is refused. -/
lemma Shared.replicateEntries (entries : List (Document × Revision))
    (h : Shared members territory distinct documents s.hashes forged G)
    (hs : s.databases = base.insert db { documents, security })
    (hentries : ∀ entry ∈ entries, (G place).Forges entry)
    (hdistinct : distinct → (forged ++ entries.map fun entry => entry.2.display).Nodup)
    (hin : s.hashes < 2 ^ 64) :
    ∃ documents' g',
      (s.replicateEntries db (conflictBodies entries)).2.databases =
        base.insert db { documents := documents', security } ∧
      (s.replicateEntries db (conflictBodies entries)).2.hashes = s.hashes ∧
      Shared members territory distinct documents' s.hashes
        (forged ++ entries.map fun entry => entry.2.display) (Function.update G place g') ∧
      (s.replicateEntries db (conflictBodies entries)).1 = [] ∧
      (G place).Conflicted distinct entries g' := by
  induction entries generalizing s documents forged G with
  | nil =>
    refine ⟨documents, G place, hs, rfl, ?_, rfl, Share.Conflicted.nil _⟩
    rw [Function.update_eq_self, List.map_nil, List.append_nil]
    exact h
  | cons entry entries ih =>
    obtain ⟨d, rev⟩ := entry
    obtain ⟨hwell, current, u, hcurrent, rfl⟩ := hentries _ List.mem_cons_self
    obtain ⟨stored, hstored, rfl⟩ := Option.map_eq_some_iff.1 hcurrent
    have hget := h.get?_eq hstored
    have hsound := h.sound _ _ hget
    have hdb : s.databases.get? db = some { documents, security } := by
      rw [hs, Table.get?_insert_self]
    have hreadable := hsound.readable hin
    have hsibling := Revision.readable_sibling hreadable.positive hreadable.generation u
    have hentry := Server.replicateEntry_readable hwell hsibling hdb hget
    have hnew : distinct → stored.rev ≠ stored.rev.conflictingSibling u ∧
        stored.rev.conflictingSibling u ∉ stored.conflicts := by
      intro hd
      refine ⟨hsound.rev_ne_sibling hin u, fun hmem => ?_⟩
      have hnodup := hdistinct hd
      rw [List.nodup_append] at hnodup
      exact hnodup.2.2 _ (hsound.conflicts _ hmem) _ (by simp) rfl
    have hshared := h.conflict hstored hnew
    simp only [conflictBodies, List.map_cons, Server.replicateEntries, hentry]
    obtain ⟨documents', g', hs', hhashes, hshared', hresults, hconflicted⟩ :=
      ih (s := s.putDocument db { documents, security } d.id
          (stored.addConflict (stored.rev.conflictingSibling u))) hshared
        (by rw [Server.putDocument, Server.putDatabase, hs, Table.insert_insert])
        (fun e he => by
          rw [Function.update_self]
          exact (hentries e (List.mem_cons_of_mem _ he)).conflict _ _)
        (fun hd => by simpa using hdistinct hd) hin
    rw [Function.update_self] at hconflicted
    rw [Function.update_idem, List.append_assoc] at hshared'
    refine ⟨documents', g', hs', hhashes, hshared', hresults, ?_⟩
    exact Share.Conflicted.cons stored hstored
      (fun hd => StoredDocument.conflicts_addConflict (hnew hd).1 (hnew hd).2) ⟨u, rfl⟩ hconflicted

end Batches

end CouchLoad
