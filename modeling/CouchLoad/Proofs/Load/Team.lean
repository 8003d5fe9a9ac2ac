import CouchLoad.Couch.Operation
import CouchLoad.Proofs.Load.Batches
import CouchLoad.Proofs.Server.Outages

/-!
# Teams

A team fills one database of a server, whose other databases stay as they are. One rule for each
operation of its members says how the share of a member comes out of the operation.
-/

namespace CouchLoad

open Server

/-- Where a team works, and which ids its members may write. -/
structure Site where
  premise : Premise
  /-- The databases of the server, among which the one of the team is replaced. -/
  base : Table Database
  db : String
  members : Nat
  territory : Nat → String → Prop

namespace Site

variable (L : Site)

/-- The database of the team falls into shares. -/
def State (databases : Table Database) (hashes : Nat) (forged : List String)
    (G : Nat → Share) : Prop :=
  ∃ documents security, databases = L.base.insert L.db { documents, security } ∧
    Shared L.members L.territory L.premise.distinct documents hashes forged G

/-- What the members of a team agree on. -/
def discipline : Discipline (World Server) Share :=
  L.premise.discipline L.State

/-- Other members may write an id, too. -/
def Contested (place : Nat) (id : String) : Prop :=
  ∃ other, other ≠ place ∧ L.territory other id

lemma calm : L.discipline.Calm := L.premise.calm_discipline

end Site

/-! ### What operations do to shares -/

/-- What comes of writing a document on top of a revision, or without one. -/
inductive Share.Puts (contested : String → Prop) (g : Share) (d : Document)
    (rev : Option Revision) : Except StoreError Revision → Share → Prop
  | accept (stored : StoredDocument) (current : g.current d.id = rev)
      (succeeds : stored.Succeeds (g.documents d.id)) (body : stored.body = d.fields) :
      Puts contested g d rev (.ok stored.rev) (g.write d.id stored)
  | refuse (e : StoreError)
      (reason : d.id = "_security" ∨ g.current d.id ≠ rev ∨ contested d.id) :
      Puts contested g d rev (.error e) g

/-- What comes of uploading an attachment. -/
inductive Share.Uploads (g : Share) (id : String) : Except StoreError Revision → Share → Prop
  | accept (stored : StoredDocument) (succeeds : stored.Succeeds (g.documents id)) :
      Uploads g id (.ok stored.rev) (g.write id stored)
  | fail (e : StoreError) : Uploads g id (.error e) g

/-! ### Requests of the operations -/

namespace Operation

lemma command_putDocument (db id : String) (rev : Option Revision) (body : Json) :
    Command.of? (putDocument db id rev body).request =
      some (if id = "_security" then .putSecurity db else .writeDocument db id) := by
  cases rev <;>
  · simp only [putDocument, accepted, Request.plain, Request.withJson, Request.withQuery,
      Command.of?]
    split <;> simp_all

lemma jsonBody_putDocument (db id : String) (rev : Option Revision) (body : Json) :
    jsonBody (putDocument db id rev body).request = body := by
  cases rev <;> rfl

lemma queryParam?_putDocument (db id : String) (rev : Option Revision) (body : Json) :
    (putDocument db id rev body).request.queryParam? "rev" = rev.map Revision.display := by
  cases rev <;> rfl

lemma command_bulkDocuments (db : String) (documents : List Json) (newEdits : Bool) :
    Command.of? (bulkDocuments db documents newEdits).request = some (.writeBulk db) := rfl

/-- How the server responds to a bulk write on a database that is there. -/
lemma respond_bulkDocuments {s : Server} {db : String} (h : s.databases.contains db = true)
    (files : Files) (documents : List Json) (newEdits : Bool) :
    s.respond files (bulkDocuments db documents newEdits).request =
      (.ok ⟨201, .array (if newEdits then s.writeEntries db documents
        else s.replicateEntries db documents).1⟩,
        (if newEdits then s.writeEntries db documents
          else s.replicateEntries db documents).2) := by
  have hdocs : (jsonBody (bulkDocuments db documents newEdits).request).field "docs" =
      .array documents := by cases newEdits <;> rfl
  have hedits : ((jsonBody (bulkDocuments db documents newEdits).request).field
      "new_edits").bool?.getD true = newEdits := by cases newEdits <;> rfl
  unfold respond
  rw [command_bulkDocuments]
  simp only [Server.execute, writeBulk, h, hdocs, hedits, Json.array?]
  rfl

lemma command_putAttachment (db id name : String) (rev : Revision) (contentType : Option String)
    (body : Body) : Command.of? (putAttachment db id name rev contentType body).request =
      some (.writeAttachment db id name) := by
  simp only [putAttachment, accepted, Request.plain, Request.withQuery, Request.withBody]
  unfold Command.of?
  split <;> simp_all

/-- Only bulk writes make revisions up. -/
lemma forged_putDocument (db id : String) (rev : Option Revision) (body : Json) :
    (putDocument db id rev body).request.forged = [] := by
  unfold Request.forged
  rw [command_putDocument]
  by_cases h : id = "_security" <;> simp [h]

lemma forged_putAttachment (db id name : String) (rev : Revision) (contentType : Option String)
    (body : Body) : (putAttachment db id name rev contentType body).request.forged = [] := by
  unfold Request.forged
  rw [command_putAttachment]

/-- The revision of a write that was accepted is read from its response. -/
lemma readRevision_written (request : Request) (id : String) {rev : Revision} (h : rev.Readable) :
    readRevision request (written id rev) = .ok rev := by
  simp [readRevision, written, Json.field, Table.get?_cons, Json.string?,
    Revision.parse?_display h.positive h.generation h.hash]

end Operation

namespace Site

variable {L : Site} {place : Nat} {g : Share}

/-- What sending a document does. -/
lemma sends_putDocument {d : Document} {rev : Option Revision} (hd : d.WellFormed)
    (hplace : place < L.members) (hterritory : L.territory place d.id)
    (hrev : rev = none ∨ (g.documents d.id).isSome) {body : Json}
    (hbody : body = { d with rev := rev.map Revision.display }.body) :
    L.discipline.Sends place (Operation.putDocument L.db d.id rev body).request
      (¬L.premise.Steady) g fun response g' => g.Puts (L.Contested place) d rev
        ((Operation.putDocument L.db d.id rev body).read response) g' := by
  have hreads : Document.ReadsAs body { d with rev := rev.map Revision.display } := by
    rw [hbody]
    exact (hd.withRev _).body_readsAs
  apply L.premise.sends_of_respond id
  rintro s files forged G ⟨documents, security, hs, h⟩ rfl hin -
  rw [Operation.forged_putDocument, List.append_nil]
  unfold respond at hin ⊢
  rw [Operation.command_putDocument] at hin ⊢
  by_cases hid : d.id = "_security"
  · rw [if_pos hid] at hin ⊢
    have hdb : s.databases.get? L.db = some { documents, security } := by
      rw [hs, Table.get?_insert_self]
    simp only [execute, hdb, Operation.jsonBody_putDocument]
    refine ⟨G place, ⟨documents, some body, ?_, ?_⟩, Or.inr ⟨_, rfl, ?_⟩⟩
    · rw [putDatabase, hs, Table.insert_insert]
    · rw [Function.update_eq_self]
      exact h
    · exact Share.Puts.refuse _ (Or.inl hid)
  · rw [if_neg hid] at hin ⊢
    simp only [execute, Operation.jsonBody_putDocument, Operation.queryParam?_putDocument,
      hreads.rev, Option.or_self] at hin ⊢
    have hrev' : rev.map Revision.display = none ∨ ((G place).documents d.id).isSome := by
      simpa using hrev
    obtain ⟨documents', hs', hcases⟩ := h.writeDocument hs hplace hterritory hrev' body
    cases hwrite : s.writeDocument L.db d.id (rev.map Revision.display) body with
    | mk out s' =>
      rw [hwrite] at hs' hcases hin
      simp only at hs' hcases
      rcases hcases with ⟨stored, rfl, hsucc, hfields, hcurrent, h'⟩ | ⟨rfl, hreason, h'⟩
      · simp only [answerWrite] at hin ⊢
        have hread : (Operation.putDocument L.db d.id rev body).read
            ⟨201, written d.id stored.rev⟩ = .ok stored.rev :=
          Operation.readRevision_written _ d.id (h'.readable_write hin)
        refine ⟨_, ⟨documents', security, hs', h'⟩, Or.inr ⟨_, rfl, ?_⟩⟩
        rw [hread]
        refine Share.Puts.accept stored ?_ hsucc (hfields.trans hreads.fields)
        exact Option.map_injective (fun _ _ => Revision.display_injective) hcurrent
      · simp only [answerWrite]
        refine ⟨G place, ⟨documents', security, hs', ?_⟩, Or.inr ⟨_, rfl, ?_⟩⟩
        · rw [Function.update_eq_self]
          exact h'
        · refine Share.Puts.refuse _ (Or.inr (hreason.imp_left fun hne heq => hne ?_))
          rw [heq]

/-- What uploading an attachment on top of the current revision does. The file may be
unreadable. -/
lemma sends_putAttachment (place : Nat) {id : String} {rev : Revision}
    (hrev : g.current id = some rev) (name : String) (contentType : Option String) (body : Body) :
    L.discipline.Sends place (Operation.putAttachment L.db id name rev contentType body).request
      True g fun response g' => g.Uploads id
        ((Operation.putAttachment L.db id name rev contentType body).read response) g' := by
  refine L.premise.sends_of_respond (fun _ => trivial) ?_
  rintro s files forged G ⟨documents, security, hs, h⟩ rfl hin -
  rw [Operation.forged_putAttachment, List.append_nil]
  unfold respond at hin ⊢
  rw [Operation.command_putAttachment] at hin ⊢
  have hquery : (Operation.putAttachment L.db id name rev contentType body).request.queryParam?
      "rev" = some rev.display := rfl
  simp only [execute, hquery] at hin ⊢
  split at hin
  · rename_i e _
    refine ⟨G place, ⟨documents, security, hs, ?_⟩, Or.inl ⟨e, rfl, trivial, rfl⟩⟩
    rw [Function.update_eq_self]
    exact h
  · rename_i bytes _
    obtain ⟨documents', stored, hs', hok, hsucc, h'⟩ := h.writeAttachment hs hrev name
      ⟨(Operation.putAttachment L.db id name rev contentType body).request.contentType, bytes⟩
    cases hwrite : s.writeAttachment L.db id name (some rev.display)
        ⟨(Operation.putAttachment L.db id name rev contentType body).request.contentType,
          bytes⟩ with
    | mk out s' =>
      rw [hwrite] at hok hs' h' hin
      simp only at hok hs' h'
      subst hok
      simp only [answerWrite] at hin ⊢
      have hread : (Operation.putAttachment L.db id name rev contentType body).read
          ⟨201, written id stored.rev⟩ = .ok stored.rev :=
        Operation.readRevision_written _ id (h'.readable_write hin)
      refine ⟨_, ⟨documents', security, hs', h'⟩, Or.inr ⟨_, rfl, ?_⟩⟩
      rw [hread]
      exact Share.Uploads.accept stored hsucc

/-- What sending a batch does. -/
lemma sends_bulkDocuments {batch : List Document} (hplace : place < L.members)
    (hbatch : ∀ d ∈ batch, g.Admits d ∧ L.territory place d.id) :
    L.discipline.Sends place
      (Operation.bulkDocuments L.db (batch.map Document.bulkBody) true).request
      (¬L.premise.Steady) g fun response g' => ∃ results,
        (Operation.bulkDocuments L.db (batch.map Document.bulkBody) true).read response =
          .ok results ∧
        g.Written (L.Contested place) batch (results.map BulkResult.revision?) g' := by
  apply L.premise.sends_of_respond id
  rintro s files forged G ⟨documents, security, hs, h⟩ rfl hin -
  have hforged : (Operation.bulkDocuments L.db (batch.map Document.bulkBody)
      true).request.forged = [] := rfl
  have hcontains : s.databases.contains L.db = true := by
    simp [Table.contains, hs, Table.get?_insert_self]
  rw [hforged, List.append_nil]
  have hrespond : s.respond files
      (Operation.bulkDocuments L.db (batch.map Document.bulkBody) true).request =
        (.ok ⟨201, .array (s.writeEntries L.db (batch.map Document.bulkBody)).1⟩,
          (s.writeEntries L.db (batch.map Document.bulkBody)).2) :=
    Operation.respond_bulkDocuments hcontains files _ true
  rw [hrespond] at hin ⊢
  obtain ⟨documents', g', results, hs', h', hresults, hwritten⟩ :=
    h.writeEntries batch hplace hs hbatch hin
  refine ⟨g', ⟨documents', security, hs', h'⟩, Or.inr ⟨_, rfl, results, ?_, hwritten⟩⟩
  simp [Operation.bulkDocuments, Operation.accepted, Response.isSuccess, hresults]

/-- What sending conflicts does. -/
lemma sends_conflicts {entries : List (Document × Revision)}
    (hentries : ∀ entry ∈ entries, g.Forges entry) :
    L.discipline.Sends place
      (Operation.bulkDocuments L.db (conflictBodies entries) false).request
      (¬L.premise.Steady) g fun response g' =>
        (Operation.bulkDocuments L.db (conflictBodies entries) false).read response = .ok [] ∧
        g.Conflicted L.premise.distinct entries g' := by
  apply L.premise.sends_of_respond id
  rintro s files forged G ⟨documents, security, hs, h⟩ rfl hin hdistinct
  have hforged : (Operation.bulkDocuments L.db (conflictBodies entries) false).request.forged =
      entries.map fun entry => entry.2.display := by
    have hmembers : (Operation.bulkDocuments L.db (conflictBodies entries)
        false).request.forged =
          (conflictBodies entries).filterMap fun entry => (entry.field "_rev").string? := rfl
    rw [hmembers, conflictBodies, List.filterMap_map, ← List.filterMap_eq_map]
    refine List.filterMap_congr fun entry hentry => ?_
    exact (((hentries entry hentry).wellFormed.withRev _).bulkBody_readsAs).rev
  have hcontains : s.databases.contains L.db = true := by
    simp [Table.contains, hs, Table.get?_insert_self]
  have hrespond : s.respond files
      (Operation.bulkDocuments L.db (conflictBodies entries) false).request =
        (.ok ⟨201, .array (s.replicateEntries L.db (conflictBodies entries)).1⟩,
          (s.replicateEntries L.db (conflictBodies entries)).2) :=
    Operation.respond_bulkDocuments hcontains files _ false
  have hle := (precedes_replicateEntries s L.db (conflictBodies entries)).hashes
  rw [hrespond] at hin ⊢
  rw [hforged] at hdistinct ⊢
  obtain ⟨documents', g', hs', hhashes, h', hresults, hconflicted⟩ :=
    h.replicateEntries entries hs hentries hdistinct (Nat.lt_of_le_of_lt hle hin)
  rw [← hhashes] at h'
  refine ⟨g', ⟨documents', security, hs', h'⟩, Or.inr ⟨_, rfl, ?_, hconflicted⟩⟩
  rw [hresults]
  rfl

end Site

end CouchLoad
