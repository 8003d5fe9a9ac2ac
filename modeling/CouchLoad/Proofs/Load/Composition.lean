import CouchLoad.Proofs.Load.Loops

/-!
# What the work of a worker is composed of

All that a worker does, one document after the other or in batches, are requests about its own
database and steps that no server takes part in. So a logic that allows for such requests allows for
the work: a worker does not know more about its surroundings than what operations tell.
-/

namespace CouchLoad

open Session

/-- A request that is about a database, or about something in it. -/
def Request.Concerns (db : String) (r : Request) : Prop :=
  r.path.head? = some db

namespace Operation

lemma concerns_putDocument (db id : String) (rev : Option Revision) (body : Json) :
    (putDocument db id rev body).request.Concerns db := by
  cases rev <;> rfl

lemma concerns_putAttachment (db id name : String) (rev : Revision) (contentType : Option String)
    (body : Body) :
    (putAttachment db id name rev contentType body).request.Concerns db := rfl

lemma concerns_bulkDocuments (db : String) (bodies : List Json) (newEdits : Bool) :
    (bulkDocuments db bodies newEdits).request.Concerns db := rfl

end Operation

namespace Session.Logic

variable {ρ α : Type}
  {Holds : {α : Type} → Work α → (α → ρ → Link Progress → Prop) → ρ → Link Progress → Prop}
  {Shows : ρ → Link Progress → Prop} (L : Logic Holds Shows) {w : Worker} {x : ρ}
  {link : Link Progress} (hshows : ∀ x link, Shows x link)
  (hsend : ∀ r x link, r.Concerns w.db → Holds (send r) (fun _ _ _ => True) x link)
include L hsend

/-- Nothing is known of what comes of an operation. -/
lemma holds_perform_of_send {operation : Operation α} (h : operation.request.Concerns w.db)
    {post : Except StoreError α → ρ → Link Progress → Prop}
    (hpost : ∀ result x link, post result x link) : Holds (perform operation) post x link :=
  L.holds_perform (L.holds_mono (hsend _ _ _ h) fun _ _ _ _ => hpost _ _ _)

include hshows

lemma holds_writeDocument_of_send (d : Document) :
    Holds (w.writeDocument d) (fun _ _ _ => True) x link := by
  refine L.holds_bind (L.holds_mono (?revisions : Holds _ (fun _ _ _ => True) _ _) ?attachments)
  case revisions =>
    refine L.holds_putRevisions hshows (fun _ _ _ _ => True) ?_ (fun _ _ _ _ => trivial) _ trivial
    intro pass passes current x link _
    refine L.holds_perform_of_send hsend (Operation.concerns_putDocument ..) ?_
    intro result x link time
    cases result <;> trivial
  case attachments =>
    intro last x link _
    cases last with
    | none => exact L.holds_pure trivial
    | some rev =>
      refine L.holds_uploadAttachments hshows (fun _ _ _ _ => True) ?_ (fun _ _ _ _ => trivial) _
        trivial
      intro a rest rev x link _
      refine L.holds_perform_of_send hsend (Operation.concerns_putAttachment ..) ?_
      intro result x link time
      cases result <;> trivial

lemma holds_submit_of_send (pass : Nat) (batch : List Document) :
    Holds (w.submit pass batch) (fun _ _ _ => True) x link := by
  refine L.holds_bind (L.holds_flush (hshows _ _) ?_)
  refine L.holds_perform_of_send hsend (Operation.concerns_bulkDocuments ..) fun result x link =>
    ⟨hshows _ _, fun time => ⟨hshows _ _, ?_⟩⟩
  split
  · refine L.holds_addConflicts (L.holds_injectPasses (fun _ _ _ _ _ => True)
      (fun _ _ _ _ _ _ _ _ => trivial) ?_ (fun _ _ _ _ _ => trivial) _ trivial)
    intro pass passes o s x link _ _
    refine ⟨hshows _ _, L.holds_perform_of_send hsend (Operation.concerns_bulkDocuments ..) ?_⟩
    refine fun result x link => ⟨hshows _ _, ?_⟩
    cases result <;> exact fun _ => trivial
  · exact L.holds_pure trivial

/-- Whatever its configuration is, a worker sends nothing but requests about its database. -/
theorem holds_work_of_send : Holds w.work (fun _ _ _ => True) x link := by
  refine L.holds_work (hshows _ _) (fun hbulk => ?batches) fun _ => ?each
  case batches =>
    have hwaiting : ([] : List Document).length < w.config.bulkBatch := Config.bulkBatch_pos hbulk
    refine L.holds_writePasses (fun _ _ _ => True) _ (fun pass passes x link _ => ?_) _ trivial
    refine L.holds_writePass (fun _ _ _ _ => True) (fun _ _ _ _ _ => hshows _ _) ?_ ?_ ?_ _
      hwaiting trivial
    · exact fun _ _ _ _ _ _ _ _ _ => trivial
    · exact fun _ _ _ _ _ _ _ _ _ => trivial
    · exact fun batch _ _ _ _ _ _ _ => L.holds_submit_of_send hshows hsend pass batch
  case each =>
    refine L.holds_writeEach hshows (fun _ _ _ => True) ?_ ?_ _ trivial
    · exact fun _ _ _ _ _ _ _ _ => trivial
    · exact fun _ d _ _ _ _ _ _ => L.holds_writeDocument_of_send hshows hsend d

end Session.Logic

end CouchLoad
