import CouchLoad.Proofs.Load.Stages
import CouchLoad.Proofs.Load.Transparency
import CouchLoad.Proofs.Program.Serving

/-!
# A worker alone

Where one worker alone fills an empty database of a server that drops nothing, every operation does
what it is meant to: whatever the worker writes under an identifier that has not been used before
gets there. The requests that have come in tell which ids have been used.
-/

namespace CouchLoad

open Session

/-! ### Ids that requests name -/

namespace Entropy.Uuid

/-- No identifier is reserved for the security object of a database. -/
lemma ne_security {id : String} (h : ∃ u : Uuid, id = u.hyphenated) : id ≠ "_security" := by
  obtain ⟨u, rfl⟩ := h
  intro h
  have hmem : '-' ∈ u.hyphenated.toList := by simp [hyphenated, List.intercalate]
  rw [h] at hmem
  revert hmem
  decide

end Entropy.Uuid

/-- The ids of the documents that are rendered for a request: those of a bulk write with new edits,
and that of a write that names no revision. -/
def Request.named (r : Request) : List String :=
  match Server.Command.of? r with
  | some (.writeBulk _) =>
    let body := Server.jsonBody r
    if (body.field "new_edits").bool?.getD true then
      ((body.field "docs").array?.getD []).filterMap fun entry => (entry.field "_id").string?
    else []
  | some (.writeDocument _ id) => if (r.queryParam? "rev").isNone then [id] else []
  | _ => []

namespace Operation

lemma named_putDocument (db : String) {id : String} (hid : id ≠ "_security")
    (rev : Option Revision) (body : Json) :
    (putDocument db id rev body).request.named = if rev.isNone then [id] else [] := by
  unfold Request.named
  rw [command_putDocument, if_neg hid]
  simp only
  rw [queryParam?_putDocument, Option.isNone_map]

lemma named_putAttachment (db id name : String) (rev : Revision) (contentType : Option String)
    (body : Body) : (putAttachment db id name rev contentType body).request.named = [] := by
  unfold Request.named
  rw [command_putAttachment]

lemma named_bulkDocuments (db : String) {batch : List Document} (h : ∀ d ∈ batch, d.WellFormed) :
    (bulkDocuments db (batch.map Document.bulkBody) true).request.named = batch.map (·.id) := by
  have hnamed : (bulkDocuments db (batch.map Document.bulkBody) true).request.named =
      (batch.map Document.bulkBody).filterMap fun entry => (entry.field "_id").string? := rfl
  rw [hnamed, List.filterMap_map, ← List.filterMap_eq_map]
  exact List.filterMap_congr fun d hd => (h d hd).bulkBody_readsAs.id

lemma named_conflicts (db : String) (bodies : List Json) :
    (bulkDocuments db bodies false).request.named = [] := rfl

end Operation

namespace Server

/-- The ids that have been named by the requests since some start. -/
def named (start s : Server) : List String :=
  (s.requests.toList.drop start.requests.size).flatMap Request.named

/-- No id has been named twice since the start, and the server counts hashes with 64 bits. -/
structure Unrepeated (start s : Server) : Prop where
  hashes : s.hashes < 2 ^ 64
  nodup : (start.named s).Nodup

variable {start s : Server}

lemma named_handle (hsize : start.requests.size ≤ s.requests.size) (files : Files) (r : Request) :
    start.named (s.handle files r).2 = start.named s ++ r.named := by
  unfold named
  rw [requests_handle, Array.toList_push, List.drop_append_of_le_length (by simpa using hsize),
    List.flatMap_append, List.flatMap_singleton]

lemma lasting_unrepeated (start : Server) : Lasting start.Unrepeated where
  handle s files r h := by
    refine ⟨Nat.lt_of_le_of_lt (hashes_le_handle s files r) h.hashes, h.nodup.sublist ?_⟩
    unfold named
    rw [requests_handle, Array.toList_push, List.drop_append, List.flatMap_append]
    exact List.sublist_append_left ..
  reconnect s h := ⟨h.hashes, h.nodup⟩

/-- Where one worker alone fills a database with documents that have drawn identifiers. -/
def solo (start : Server) (db : String) : Site where
  premise := { outages := fun _ => none, start, distinct := False }
  base := start.databases
  db
  members := 1
  territory place id := place = 0 ∧ ∃ u : Entropy.Uuid, id = u.hyphenated

lemma db_solo (start : Server) (db : String) : (start.solo db).db = db := rfl

lemma steady_solo (h : start.pendingFailures = 0) (db : String) :
    (start.solo db).premise.Steady := ⟨rfl, h⟩

lemma not_contested_solo (start : Server) (db id : String) : ¬(start.solo db).Contested 0 id := by
  rintro ⟨other, hother, rfl, -⟩
  exact hother rfl

/-- A server whose database has been filled by one worker, and what this worker has contributed. -/
structure Solo (start : Server) (db : String) (g : Share) (s : Server) : Prop where
  follows : (start.solo db).premise.Follows s
  state : ∃ G, (start.solo db).State s.databases s.hashes ((start.solo db).premise.forged s) G ∧
    G 0 = g

namespace Solo

variable {db : String} {g : Share} {r : Request}

lemma start_empty {security : Option Json}
    (h : start.databases.get? db = some { documents := [], security }) : start.Solo db {} start :=
  ⟨(start.solo db).premise.follows_start, _,
    ⟨[], security, (Table.insert_get? h).symm, Shared.empty⟩, rfl⟩

/-- What a request does to the share of the only worker. -/
lemma handle (h : start.Solo db g s) {faulty : Prop} {effect : Response → Share → Prop}
    (hsend : (start.solo db).discipline.Sends 0 r faulty g effect) (files : Files)
    (hin : (s.handle files r).2.hashes < 2 ^ 64) :
    (∃ e, (s.handle files r).1 = .error e ∧ faulty ∧ start.Solo db g (s.handle files r).2) ∨
      ∃ response g', (s.handle files r).1 = .ok response ∧ effect response g' ∧
        start.Solo db g' (s.handle files r).2 := by
  obtain ⟨G, hstate, hG⟩ := h.state
  rcases hsend { World.fresh s [] with files } G ⟨h.follows, hstate⟩ hG ⟨hin, False.elim⟩ with
    ⟨e, he, hfaulty, hfollows, hstate'⟩ | ⟨response, g', hresponse, heffect, hfollows, hstate'⟩
  · exact Or.inl ⟨e, he, hfaulty, hfollows, G, hstate', hG⟩
  · exact Or.inr ⟨response, g', hresponse, heffect, hfollows, _, hstate', Function.update_self ..⟩

lemma named_handle (h : start.Solo db g s) (files : Files) (r : Request) :
    start.named (s.handle files r).2 = start.named s ++ r.named :=
  Server.named_handle h.follows.size files r

end Solo

end Server

/-! ### Operations of the only worker -/

section Operations

variable {start s : Server} {db : String} {g : Share} {σ : Type} {link : Link σ}

/-- An operation does to the share what sending its request does. -/
lemma serves_solo {α : Type} {operation : Operation α} {faulty : Prop}
    {effect : Response → Share → Prop} {post : Except StoreError α → Server → Link σ → Prop}
    (h : start.Solo db g s)
    (hsend : (start.solo db).discipline.Sends 0 operation.request faulty g effect)
    (herror : ∀ e s', faulty → start.Solo db g s' →
      start.named s' = start.named s ++ operation.request.named → post (.error e) s' link)
    (hok : ∀ response g' s', effect response g' → start.Solo db g' s' →
      start.named s' = start.named s ++ operation.request.named → start.Unrepeated s' →
      post (operation.read response) s' link) :
    (perform operation).Serves start.Unrepeated post s link := by
  refine serves_perform fun files hin => ?_
  have hnamed := h.named_handle files operation.request
  rcases h.handle hsend files hin.hashes with ⟨e, he, hfaulty, h'⟩ | ⟨response, g', hr, heffect, h'⟩
  · rw [he]
    exact herror _ _ hfaulty h' hnamed
  · rw [hr]
    exact hok response g' _ heffect h' hnamed hin

/-- A document that names its current revision, or none if it is new, is written. -/
lemma serves_putDocument {post : Except StoreError Revision → Server → Link σ → Prop}
    (hcalm : start.pendingFailures = 0) {d : Document} (hd : d.WellFormed)
    (hid : ∃ u : Entropy.Uuid, d.id = u.hyphenated) {current : Option Revision}
    (hcurrent : g.current d.id = current) (h : start.Solo db g s)
    (hpost : ∀ (stored : StoredDocument) s', stored.Succeeds (g.documents d.id) →
      start.Solo db (g.write d.id stored) s' →
      start.named s' = start.named s ++ (if current.isNone then [d.id] else []) →
      start.Unrepeated s' → post (.ok stored.rev) s' link) :
    (perform (.putDocument db d.id current
      { d with rev := current.map Revision.display }.body)).Serves start.Unrepeated post s
        link := by
  have hsecurity : d.id ≠ "_security" := Entropy.Uuid.ne_security hid
  have hheld : current = none ∨ (g.documents d.id).isSome := by
    rw [← hcurrent]
    cases hdoc : g.documents d.id <;> simp [Share.current, hdoc]
  have hsend := (start.solo db).sends_putDocument hd Nat.zero_lt_one ⟨rfl, hid⟩ hheld rfl
  rw [Server.db_solo] at hsend
  refine serves_solo h hsend (fun _ _ hfaulty => absurd (Server.steady_solo hcalm db) hfaulty) ?_
  intro response g' s' hputs h' hnamed hin
  rw [Operation.named_putDocument db hsecurity] at hnamed
  generalize (Operation.putDocument db d.id current _).read response = out at hputs
  cases hputs with
  | accept stored _ hsucceeds _ => exact hpost stored s' hsucceeds h' hnamed hin
  | refuse e hreason =>
    rcases hreason with heq | hne | hcontested
    · exact absurd heq hsecurity
    · exact absurd hcurrent hne
    · exact absurd hcontested (Server.not_contested_solo start db d.id)

/-- No id is named twice. -/
lemma serves_putTaken {post : Except StoreError Revision → Server → Link σ → Prop} {id : String}
    (hid : ∃ u : Entropy.Uuid, id = u.hyphenated) (hmem : id ∈ start.named s)
    (h : start.Solo db g s) (body : Json) :
    (perform (.putDocument db id none body)).Serves start.Unrepeated post s link := by
  refine serves_perform fun files hin => ?_
  have hnodup := hin.nodup
  rw [h.named_handle, Operation.named_putDocument db (Entropy.Uuid.ne_security hid)]
    at hnodup
  exact absurd rfl ((List.nodup_append.1 hnodup).2.2 id hmem id (by simp))

/-- An attachment is uploaded on top of the current revision, unless its file cannot be read. -/
lemma serves_putAttachment {post : Except StoreError Revision → Server → Link σ → Prop}
    {id : String} {rev : Revision} (hrev : g.current id = some rev) (h : start.Solo db g s)
    (name : String) (contentType : Option String) (body : Body)
    (haccept : ∀ (stored : StoredDocument) s', stored.Succeeds (g.documents id) →
      start.Solo db (g.write id stored) s' → start.named s' = start.named s →
      post (.ok stored.rev) s' link)
    (hfail : ∀ e s', start.Solo db g s' → start.named s' = start.named s →
      post (.error e) s' link) :
    (perform (.putAttachment db id name rev contentType body)).Serves start.Unrepeated post s
      link := by
  have hsend := (start.solo db).sends_putAttachment 0 hrev name contentType body
  rw [Server.db_solo] at hsend
  have hnone := Operation.named_putAttachment db id name rev contentType body
  refine serves_solo h hsend ?_ ?_
  · intro e s' _ h' hnamed
    rw [hnone, List.append_nil] at hnamed
    exact hfail e s' h' hnamed
  · intro response g' s' huploads h' hnamed _
    rw [hnone, List.append_nil] at hnamed
    generalize (Operation.putAttachment db id name rev contentType body).read response = out
      at huploads
    cases huploads with
    | accept stored hsucceeds => exact haccept stored s' hsucceeds h' hnamed
    | fail e => exact hfail e s' h' hnamed

/-- A batch is written document by document. -/
lemma serves_bulkDocuments {post : Except StoreError (List BulkResult) → Server → Link σ → Prop}
    (hcalm : start.pendingFailures = 0) {batch : List Document} (h : start.Solo db g s)
    (hbatch : ∀ d ∈ batch, g.Admits d ∧ ∃ u : Entropy.Uuid, d.id = u.hyphenated)
    (hpost : ∀ (results : List BulkResult) g' s', start.Solo db g' s' →
      g.Written ((start.solo db).Contested 0) batch (results.map BulkResult.revision?) g' →
      start.named s' = start.named s ++ batch.map (·.id) → start.Unrepeated s' →
      post (.ok results) s' link) :
    (perform (.bulkDocuments db (batch.map Document.bulkBody) true)).Serves start.Unrepeated post
      s link := by
  have hadmitted : ∀ d ∈ batch, g.Admits d ∧ (start.solo db).territory 0 d.id := fun d hd =>
    ⟨(hbatch d hd).1, rfl, (hbatch d hd).2⟩
  have hsend := (start.solo db).sends_bulkDocuments Nat.zero_lt_one hadmitted
  rw [Server.db_solo] at hsend
  refine serves_solo h hsend (fun _ _ hfaulty => absurd (Server.steady_solo hcalm db) hfaulty) ?_
  rintro response g' s' ⟨results, hread, hwritten⟩ h' hnamed hin
  rw [Operation.named_bulkDocuments db fun d hd => (hbatch d hd).1.wellFormed] at hnamed
  rw [hread]
  exact hpost results g' s' h' hwritten hnamed hin

/-- Conflicts are stored. -/
lemma serves_conflicts {post : Except StoreError (List BulkResult) → Server → Link σ → Prop}
    (hcalm : start.pendingFailures = 0) {entries : List (Document × Revision)}
    (h : start.Solo db g s) (hentries : ∀ entry ∈ entries, g.Forges entry)
    (hpost : ∀ g' s', start.Solo db g' s' → g.Conflicted False entries g' →
      start.named s' = start.named s → post (.ok []) s' link) :
    (perform (.bulkDocuments db (conflictBodies entries) false)).Serves start.Unrepeated post s
      link := by
  have hsend : (start.solo db).discipline.Sends 0 _ _ g _ :=
    (start.solo db).sends_conflicts hentries
  rw [Server.db_solo] at hsend
  refine serves_solo h hsend (fun _ _ hfaulty => absurd (Server.steady_solo hcalm db) hfaulty) ?_
  rintro response g' s' ⟨hread, hconflicted⟩ h' hnamed _
  rw [Operation.named_conflicts, List.append_nil] at hnamed
  rw [hread]
  exact hpost g' s' h' hconflicted hnamed

end Operations

end CouchLoad
