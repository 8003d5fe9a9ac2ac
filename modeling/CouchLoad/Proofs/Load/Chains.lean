import CouchLoad.Proofs.Load.Rendering
import CouchLoad.Proofs.Program.Trace
import CouchLoad.Load.Worker

/-!
# Chains of calls

A worker that writes documents one by one makes a chain of calls for each of them: revisions on top
of each other, and then attachments on top of the last revision. What the calls of a chain are
depends on what came of the calls before.
-/

namespace CouchLoad

/-! ### Requests and what came of them -/

/-- The members of the body of a request. -/
def Request.members (r : Request) : Table Json :=
  match r.body with
  | .json (.object members) => members
  | _ => []

/-- The revision that a call has returned, if it succeeded. -/
def Call.revision? (call : Call) : Option Revision :=
  ((Operation.accepted call.request (Operation.readRevision call.request)).outcome
    call.answer).toOption

/-- Whether a call succeeded. -/
def Call.succeeded (call : Call) : Bool :=
  call.revision?.isSome

/-- The revision that the last call of those that succeeded has returned. -/
def latest? (calls : List Call) : Option Revision :=
  (calls.filterMap Call.revision?).getLast?

namespace Worker

/-- The request that writes a document on top of a revision. -/
def putRequest (w : Worker) (d : Document) (current : Option Revision) : Request :=
  (Operation.putDocument w.db d.id current
    { d with rev := current.map Revision.display }.body).request

/-- The request that uploads an attachment on top of a revision. -/
def uploadRequest (w : Worker) (d : Document) (a : Attachment) (rev : Revision) : Request :=
  (Operation.putAttachment w.db d.id a.name rev a.contentType (payloadBody a.payload)).request

end Worker

/-! ### Chains -/

/-- The calls for the document of one counter. -/
structure Chain where
  counter : Nat
  /-- The document, if the counter can be rendered. -/
  document : Option Document
  puts : List Call
  uploads : List Call

namespace Chain

/-- All calls of a chain, in their order. -/
def calls (chain : Chain) : List Call :=
  chain.puts ++ chain.uploads

/-- Whether all revisions have been written. -/
def completes (revisions : Nat) (chain : Chain) : Bool :=
  chain.puts.countP Call.succeeded == revisions

/-- The attachments of the document. -/
def attachments (chain : Chain) : List Attachment :=
  (chain.document.map Document.attachments).getD []

/-- Calls that write revisions of a document, each on top of the one before. -/
structure Revises (w : Worker) (d : Document) (puts : List Call) : Prop where
  length_le : puts.length ≤ w.config.revisions
  put : ∀ call ∈ puts, ∃ rev body,
    call.request = (Operation.putDocument w.db d.id rev body).request
  /-- The first write names no revision. -/
  first : ∀ call, puts[0]? = some call →
    call.request.queryParam? "rev" = none ∧ "_rev" ∉ call.request.members.keys
  /-- Every other one names what the one before has returned, in the query and in the body. -/
  next : ∀ (i : Nat) (call call' : Call), puts[i]? = some call → puts[i + 1]? = some call' →
    ∃ rev, call.revision? = some rev ∧ call'.request.queryParam? "rev" = some rev.display ∧
      call'.request.members.get? "_rev" = some (.string rev.display)
  /-- Apart from the revision all bodies are the same. -/
  body : ∀ call ∈ puts, call.request.members.erase "_rev" = ("_id", .string d.id) :: d.fields

/-- The calls that write the revisions of a document and then its attachments. -/
structure Follows (w : Worker) (d : Document) (chain : Chain) : Prop where
  revises : Revises w d chain.puts
  /-- Nothing but a failure keeps revisions from being written, and no attachments follow it. -/
  stopped : ¬chain.completes w.config.revisions →
    (∃ call, chain.puts.getLast? = some call ∧ call.revision? = none) ∧ chain.uploads = []
  completed : chain.completes w.config.revisions → chain.puts.length = w.config.revisions ∧
    (∀ call ∈ chain.puts, call.succeeded) ∧ chain.uploads.length = d.attachments.length
  /-- Every attachment is uploaded on top of the latest revision. -/
  upload : ∀ (i : Nat) (call : Call), chain.uploads[i]? = some call → ∃ a rev,
    d.attachments[i]? = some a ∧ latest? (chain.puts ++ chain.uploads.take i) = some rev ∧
      call.request = w.uploadRequest d a rev

/-- The calls for a counter: none if it cannot be rendered. -/
structure Made (w : Worker) (chain : Chain) : Prop where
  unrendered : chain.document = none →
    w.config.FailsToRender chain.counter ∧ chain.puts = [] ∧ chain.uploads = []
  rendered : ∀ d, chain.document = some d →
    w.config.Renders chain.counter d ∧ chain.Follows w d

end Chain

/-! ### Writing revisions -/

section Puts

variable {w : Worker} {d : Document} {current : Option Revision}

lemma queryParam?_putRequest :
    (w.putRequest d current).queryParam? "rev" = current.map Revision.display := by
  cases current <;> rfl

lemma members_putRequest : (w.putRequest d current).members =
    { d with rev := current.map Revision.display }.members := by
  cases current <;> rfl

lemma get?_rev_putRequest (hd : d.WellFormed) : (w.putRequest d current).members.get? "_rev" =
    current.map fun rev => Json.string rev.display := by
  have hnone : ∀ key ∈ Table.keys ([] : Table Json), key = "_attachments" := by simp
  have h := (hd.withRev (current.map Revision.display)).get?_rev hnone
  rw [List.append_nil] at h
  rw [members_putRequest, h, Option.map_map]
  rfl

/-- Without the revision the body is the id and the fields. -/
lemma erase_rev_putRequest (hd : d.WellFormed) :
    (w.putRequest d current).members.erase "_rev" = ("_id", .string d.id) :: d.fields := by
  rw [members_putRequest, (hd.withRev _).members_eq, Table.erase_append,
    Table.erase_of_notMem (hd.notReserved "_rev" (by decide))]
  cases current <;> rfl

/-- Calls that write revisions of a document, the first one on top of a revision if there is one,
and the revision that they end with. -/
inductive Puts (w : Worker) (d : Document) :
    Option Revision → Nat → List Call → Option Revision → Prop
  | finish (current : Option Revision) : Puts w d current 0 [] current
  | fail (current : Option Revision) (n : Nat) (call : Call)
      (request : call.request = w.putRequest d current) (failed : call.revision? = none) :
      Puts w d current (n + 1) [call] none
  | next (current : Option Revision) (n : Nat) (call : Call) (rev : Revision) (calls : List Call)
      (last : Option Revision) (request : call.request = w.putRequest d current)
      (returned : call.revision? = some rev) (rest : Puts w d (some rev) n calls last) :
      Puts w d current (n + 1) (call :: calls) last

namespace Puts

variable {n : Nat} {puts : List Call} {last : Option Revision}

lemma length_le (h : Puts w d current n puts last) : puts.length ≤ n := by
  induction h with
  | finish => exact Nat.le_refl _
  | fail => simp
  | next current n call rev calls last _ _ _ ih => simpa using ih

lemma exists_request (h : Puts w d current n puts last) :
    ∀ call ∈ puts, ∃ current, call.request = w.putRequest d current := by
  induction h with
  | finish => simp
  | fail current n call request => simpa using ⟨current, request⟩
  | next current n call rev calls last request _ _ ih =>
    exact List.forall_mem_cons.2 ⟨⟨current, request⟩, ih⟩

lemma request_head (h : Puts w d current n puts last) {call : Call} (hcall : puts[0]? = some call) :
    call.request = w.putRequest d current := by
  cases h with
  | finish => cases hcall
  | fail _ _ _ request =>
    cases hcall
    exact request
  | next _ _ _ _ _ _ request =>
    cases hcall
    exact request

/-- Every call but the first is on top of what the one before has returned. -/
lemma request_next (h : Puts w d current n puts last) {i : Nat} {call call' : Call}
    (hcall : puts[i]? = some call) (hcall' : puts[i + 1]? = some call') :
    ∃ rev, call.revision? = some rev ∧ call'.request = w.putRequest d (some rev) := by
  induction h generalizing i with
  | finish => cases hcall
  | fail => cases hcall'
  | next current n first rev calls last request returned rest ih =>
    cases i with
    | zero =>
      cases hcall
      exact ⟨rev, returned, rest.request_head hcall'⟩
    | succ i => exact ih hcall hcall'

/-- All revisions are written, or the last call failed and it is the only one. -/
lemma outcome (h : Puts w d current n puts last) :
    (puts.length = n ∧ (∀ call ∈ puts, call.succeeded) ∧ last = (latest? puts).or current) ∨
      (last = none ∧ puts.countP Call.succeeded < n ∧
        (puts.countP fun call => !call.succeeded) = 1 ∧
        ∃ call, puts.getLast? = some call ∧ call.revision? = none) := by
  induction h with
  | finish current => exact Or.inl ⟨rfl, by simp, rfl⟩
  | fail current n call request failed =>
    refine Or.inr ⟨rfl, ?_, ?_, call, rfl, failed⟩ <;> simp [Call.succeeded, failed]
  | next current n call rev calls last request returned rest ih =>
    have hcall : call.succeeded = true := by simp [Call.succeeded, returned]
    rcases ih with ⟨hlength, hall, hlast⟩ | ⟨hlast, hcount, hfailed, final, hfinal, hnone⟩
    · refine Or.inl ⟨by simp [hlength], List.forall_mem_cons.2 ⟨hcall, hall⟩, ?_⟩
      rw [hlast, latest?, latest?, List.filterMap_cons_some returned, List.getLast?_cons]
      cases (calls.filterMap Call.revision?).getLast? <;> rfl
    · refine Or.inr ⟨hlast, ?_, ?_, final, ?_, hnone⟩
      · rw [List.countP_cons_of_pos hcall]
        exact Nat.succ_lt_succ hcount
      · rw [List.countP_cons_of_neg (by simp [hcall]), hfailed]
      · rw [List.getLast?_cons, hfinal]
        rfl

/-- Writes that end with a revision have all succeeded, and it is the latest. -/
lemma completed {rev : Revision} (h : Puts w d none n puts (some rev)) :
    puts.length = n ∧ (∀ call ∈ puts, call.succeeded) ∧ latest? puts = some rev := by
  rcases h.outcome with ⟨hlength, hall, hlast⟩ | ⟨hlast, -⟩
  · rw [Option.or_none] at hlast
    exact ⟨hlength, hall, hlast.symm⟩
  · cases hlast

lemma revises (h : Puts w d none w.config.revisions puts last) (hd : d.WellFormed) :
    Chain.Revises w d puts where
  length_le := h.length_le
  put call hcall := by
    obtain ⟨current, hrequest⟩ := h.exists_request call hcall
    exact ⟨current, _, hrequest⟩
  first call hcall := by
    rw [h.request_head hcall]
    exact ⟨queryParam?_putRequest, Table.get?_eq_none_iff.1 (get?_rev_putRequest hd)⟩
  next i call call' hcall hcall' := by
    obtain ⟨rev, hrev, hrequest⟩ := h.request_next hcall hcall'
    rw [hrequest]
    exact ⟨rev, hrev, queryParam?_putRequest, get?_rev_putRequest hd⟩
  body call hcall := by
    obtain ⟨current, hrequest⟩ := h.exists_request call hcall
    rw [hrequest]
    exact erase_rev_putRequest hd

end Puts

end Puts

/-! ### Uploading attachments -/

lemma latest?_append (calls calls' : List Call) :
    latest? (calls ++ calls') = (latest? calls').or (latest? calls) := by
  rw [latest?, List.filterMap_append, List.getLast?_append]
  rfl

/-- Calls that upload attachments, the first one on top of a revision. A failure leaves the revision
as it is. -/
inductive Uploads (w : Worker) (d : Document) : Revision → List Attachment → List Call → Prop
  | nil (rev : Revision) : Uploads w d rev [] []
  | cons (rev : Revision) (a : Attachment) (rest : List Attachment) (call : Call)
      (calls : List Call) (request : call.request = w.uploadRequest d a rev)
      (others : Uploads w d (call.revision?.getD rev) rest calls) :
      Uploads w d rev (a :: rest) (call :: calls)

namespace Uploads

variable {w : Worker} {d : Document} {rev : Revision} {attachments : List Attachment}
  {uploads : List Call}

lemma length_eq (h : Uploads w d rev attachments uploads) :
    uploads.length = attachments.length := by
  induction h with
  | nil => rfl
  | cons _ _ _ _ _ _ _ ih => simp [ih]

/-- Every upload is on top of the latest revision. -/
lemma exists_request (h : Uploads w d rev attachments uploads) {i : Nat} {call : Call}
    (hcall : uploads[i]? = some call) : ∃ a, attachments[i]? = some a ∧
      call.request = w.uploadRequest d a ((latest? (uploads.take i)).getD rev) := by
  induction h generalizing i with
  | nil => cases hcall
  | cons rev a rest first calls request others ih =>
    cases i with
    | zero =>
      cases hcall
      exact ⟨a, rfl, request⟩
    | succ i =>
      obtain ⟨b, hb, hrequest⟩ := ih hcall
      refine ⟨b, hb, hrequest.trans ?_⟩
      congr 1
      rw [List.take_succ_cons, ← List.singleton_append, latest?_append]
      cases hfirst : first.revision? <;> cases latest? (calls.take i) <;>
        simp [latest?, hfirst]

end Uploads

/-! ### Writes and uploads together -/

namespace Chain

variable {w : Worker} {d : Document} {puts uploads : List Call}

end Chain

end CouchLoad
