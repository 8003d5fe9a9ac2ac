import CouchLoad.Proofs.Couch.Reports
import CouchLoad.Proofs.Load.Pairing

/-!
# Which answers count as writes

A worker counts a write, and goes on from its revision, just if the answer is one of success and
carries a revision. An answer that is not accepted leaves what is known of revisions as it is, ends
the writes of its document or, where it belongs to an attachment, is passed over.
-/

namespace CouchLoad

/-! ### Calls -/

/-- A call that was answered by a response of success with a revision. -/
def Call.Accepted (call : Call) (rev : Revision) : Prop :=
  ∃ response, call.answer = .ok response ∧ response.Accepts rev

lemma Call.revision?_eq_some_iff {call : Call} {rev : Revision} :
    call.revision? = some rev ↔ call.Accepted rev := by
  rw [Accepted, ← outcome_accepted_eq_ok_iff call.request, revision?]
  cases (Operation.accepted call.request (Operation.readRevision call.request)).outcome
    call.answer <;> simp [Except.toOption]

lemma Call.revision?_eq_none_iff {call : Call} :
    call.revision? = none ↔ ∀ rev, ¬call.Accepted rev := by
  simp only [← revision?_eq_some_iff, ← Option.ne_none_iff_exists', not_exists.symm, not_not]

/-- Only the last write of a document can fail, and then nothing is there to be attached to. -/
lemma Puts.last_of_failed {w : Worker} {d : Document} {current last : Option Revision} {n : Nat}
    {puts : List Call} (h : Puts w d current n puts last) {call : Call} (hcall : call ∈ puts)
    (hfailed : call.revision? = none) : puts.getLast? = some call ∧ last = none := by
  induction h with
  | finish => cases hcall
  | fail _ _ only =>
    obtain rfl := List.mem_singleton.1 hcall
    exact ⟨rfl, rfl⟩
  | next _ _ first rev calls _ _ returned _ ih =>
    rcases List.mem_cons.1 hcall with rfl | hcall
    · rw [returned] at hfailed
      cases hfailed
    · obtain ⟨hlast, hnone⟩ := ih hcall
      exact ⟨by rw [List.getLast?_cons, hlast, Option.getD_some], hnone⟩

/-! ### Batches -/

namespace Tracker

variable {t : Tracker} {revisions : List (String × Revision)} {id : String}

/-- What is known of a document has been known before or is learned. -/
lemma get?_learn {rev : Revision} (h : (t.learn revisions).get? id = some rev) :
    t.get? id = some rev ∨ (id, rev) ∈ revisions := by
  induction revisions generalizing t with
  | nil => exact .inl h
  | cons entry rest ih =>
    rcases ih h with h | h
    · rw [Table.get?_insert] at h
      split at h
      · rename_i hid
        cases h
        exact .inr (hid ▸ List.mem_cons_self)
      · exact .inl h
    · exact .inr (List.mem_cons_of_mem _ h)

lemma get?_learn_of_notMem (h : ∀ rev, (id, rev) ∉ revisions) :
    (t.learn revisions).get? id = t.get? id := by
  induction revisions generalizing t with
  | nil => rfl
  | cons entry rest ih =>
    have hne : entry.1 ≠ id := by
      rintro rfl
      exact h entry.2 List.mem_cons_self
    have hrest := ih (t := t.insert entry.1 entry.2) fun rev hrev =>
      h rev (List.mem_cons_of_mem _ hrev)
    exact hrest.trans (by rw [Table.get?_insert, if_neg hne])

end Tracker

/-- The places of a batch that results of success stand in. -/
def places (batch : List Document) (results : List BulkResult) : List Nat :=
  (List.range batch.length).filter fun place => (results[place]?.bind BulkResult.revision?).isSome

/-- Each place with a result of success is counted as one write. -/
lemma Progress.documentWrites_recordResults (p : Progress) (batch : List Document)
    (results : List BulkResult) : (p.recordResults batch results).stats.documentWrites =
      p.stats.documentWrites + (places batch results).length := by
  induction batch generalizing p results with
  | nil => rfl
  | cons d ds ih =>
    unfold places at ih ⊢
    rw [List.length_cons, List.range_succ_eq_map, List.filter_cons, List.filter_map]
    cases results with
    | nil => simp [recordResults, failDocuments, count, Function.comp_def]
    | cons r rs =>
      rw [recordResults, ih]
      cases hrev : r.revision? with
      | none => simp [recordResult, hrev, failDocuments, count, Function.comp_def]
      | some rev =>
        simp [recordResult, hrev, count, Function.comp_def, Nat.add_assoc, Nat.add_comm 1]

namespace Worker

variable {w : Worker} {batch : List Document} {answer : Except TransportError Response}

/-- The results of a batch are revisions where the entries of the answer are. -/
lemma revision?_results_iff {place : Nat} {rev : Revision} :
    (∃ r, (w.results batch answer)[place]? = some r ∧ r.revision? = some rev) ↔
      ∃ response entry, answer = .ok response ∧ response.Yields place entry rev := by
  rw [← exists_revision?_iff w.db (batch.map Document.bulkBody) true, results]
  cases (Operation.bulkDocuments w.db (batch.map Document.bulkBody) true).outcome answer with
  | error e => simp [Except.toOption]
  | ok results => simp [Except.toOption]

lemma mem_places_iff {place : Nat} :
    place ∈ places batch (w.results batch answer) ↔ place < batch.length ∧
      ∃ response entry rev, answer = .ok response ∧ response.Yields place entry rev := by
  rw [places, List.mem_filter, List.mem_range, and_congr_right_iff, Option.isSome_iff_exists]
  intro _
  constructor
  · rintro ⟨rev, hrev⟩
    obtain ⟨response, entry, h⟩ := revision?_results_iff.1 (Option.bind_eq_some_iff.1 hrev)
    exact ⟨response, entry, rev, h⟩
  · rintro ⟨response, entry, rev, h⟩
    exact ⟨rev, Option.bind_eq_some_iff.2 (revision?_results_iff.2 ⟨response, entry, h⟩)⟩

lemma mem_gained_results_iff {id : String} {rev : Revision} :
    (id, rev) ∈ gained batch (w.results batch answer) ↔ ∃ place d response entry,
      batch[place]? = some d ∧ d.id = id ∧ answer = .ok response ∧
        response.Yields place entry rev := by
  rw [mem_gained_iff]
  constructor
  · rintro ⟨place, d, r, hd, hr, hid, hrev⟩
    obtain ⟨response, entry, h⟩ := revision?_results_iff.1 ⟨r, hr, hrev⟩
    exact ⟨place, d, response, entry, hd, hid, h⟩
  · rintro ⟨place, d, response, entry, hd, hid, h⟩
    obtain ⟨r, hr, hrev⟩ := revision?_results_iff.2 ⟨response, entry, h⟩
    exact ⟨place, d, r, hd, hr, hid, hrev⟩

end Worker

/-! ### Chains -/

section Ensures

open Session

variable {w : Worker} {calls : List Call} {link : Link Progress}

/-- The calls for a document: writes on top of what the ones before have returned and, if none of
them failed, uploads on top of the latest revision. -/
structure Chain.Accepts (w : Worker) (d : Document) (puts uploads : List Call) : Prop where
  put : ∀ call ∈ puts, ∃ current, call.request = w.putRequest d current
  /-- A write follows only on one that was accepted, and it is on top of its revision. -/
  next : ∀ (i : Nat) (call call' : Call), puts[i]? = some call → puts[i + 1]? = some call' →
    ∃ rev, call.Accepted rev ∧ call'.request = w.putRequest d (some rev)
  /-- A write that was not accepted is the last call. -/
  stopped : ∀ call ∈ puts, (∀ rev, ¬call.Accepted rev) → puts.getLast? = some call ∧ uploads = []
  /-- An upload is on top of the last revision of a call that was accepted. -/
  upload : ∀ (i : Nat) (call : Call), uploads[i]? = some call → ∃ a rev,
    d.attachments[i]? = some a ∧ latest? (puts ++ uploads.take i) = some rev ∧
      call.request = w.uploadRequest d a rev

lemma Chain.accepts_of_puts {d : Document} {n : Nat} {puts uploads : List Call}
    {last : Option Revision} (hputs : Puts w d none n puts last)
    (hnone : last = none → uploads = [])
    (hsome : ∀ rev, last = some rev → Uploads w d rev d.attachments uploads) :
    Chain.Accepts w d puts uploads where
  put := hputs.exists_request
  next i call call' hcall hcall' := by
    obtain ⟨rev, hrev, hrequest⟩ := hputs.request_next hcall hcall'
    exact ⟨rev, Call.revision?_eq_some_iff.1 hrev, hrequest⟩
  stopped call hcall hrefused := by
    obtain ⟨hlast, hend⟩ := hputs.last_of_failed hcall (Call.revision?_eq_none_iff.2 hrefused)
    exact ⟨hlast, hnone hend⟩
  upload i call hcall := by
    cases last with
    | none =>
      rw [hnone rfl] at hcall
      cases hcall
    | some rev =>
      obtain ⟨a, ha, hrequest⟩ := (hsome rev rfl).exists_request hcall
      refine ⟨a, _, ha, ?_, hrequest⟩
      rw [latest?_append, hputs.completed.2.2]
      cases latest? (uploads.take i) <;> rfl

/-- Writing a document makes calls as said, and those that are accepted count as writes. -/
lemma ensures_writeDocument_accepts (d : Document) :
    (w.writeDocument d).Ensures (fun _ calls' link' => ∃ puts uploads,
      calls' = calls ++ (puts ++ uploads) ∧ Chain.Accepts w d puts uploads ∧
        link'.owner.tracker = link.owner.tracker ∧
        link'.owner.stats.documentWrites =
          link.owner.stats.documentWrites + puts.countP Call.succeeded ∧
        link'.owner.stats.attachmentWrites =
          link.owner.stats.attachmentWrites + uploads.countP Call.succeeded) calls link := by
  refine ensures_bind ((ensures_putRevisions d none _).mono ?_)
  rintro last _ link' ⟨puts, rfl, hputs, hgains, htracker⟩
  cases last with
  | none =>
    apply ensures_pure
    refine ⟨puts, [], by rw [List.append_nil], ?_, htracker, hgains.documentWrites,
      hgains.attachmentWrites⟩
    exact Chain.accepts_of_puts hputs (fun _ => rfl) fun _ h => by cases h
  | some rev =>
    apply (ensures_uploadAttachments d rev d.attachments).mono
    rintro _ _ link'' ⟨uploads, rfl, huploads, hgains', htracker'⟩
    have hall := hgains.trans hgains'
    rw [List.append_nil, List.nil_append] at hall
    refine ⟨puts, uploads, List.append_assoc .., ?_, htracker'.trans htracker,
      hall.documentWrites, hall.attachmentWrites⟩
    refine Chain.accepts_of_puts hputs (fun h => by cases h) fun rev' h => ?_
    cases h
    exact huploads

end Ensures

/-! ### Operations and workers -/

namespace Worker

/-- A write comes to a revision just if a response of success carries it, and a result of a bulk
write just if the entry in its place does and has no error. So a response is reliable just as long
as it does not contradict itself. A worker counts what was accepted and nothing else: a batch only
changes what is known of documents in whose places revisions stand, and a document that is written
one revision after the other goes on from revisions that were accepted. -/
theorem writes_count_as_accepted (w : Worker) (link : Link Progress)
    (reply : List Turn → (action : Action) → action.Answer) (past : List Turn) :
    (∀ answer : Except TransportError Response,
      (∀ db id current body rev,
        (Operation.putDocument db id current body).outcome answer = .ok rev ↔
          ∃ response, answer = .ok response ∧ response.Accepts rev) ∧
      (∀ db id name current contentType body rev,
        (Operation.putAttachment db id name current contentType body).outcome answer = .ok rev ↔
          ∃ response, answer = .ok response ∧ response.Accepts rev) ∧
      ∀ db documents newEdits place rev,
        (∃ results r, (Operation.bulkDocuments db documents newEdits).outcome answer = .ok results ∧
          results[place]? = some r ∧ r.revision? = some rev) ↔
            ∃ response entry, answer = .ok response ∧ response.Yields place entry rev) ∧
    (∀ response : Response, response.Reliable ↔ ¬response.Contradicts) ∧
    (∀ pass batch,
      let out := ((w.flush pass batch).run link).against reply past
      ∃ answer, callsOf out.1 = [⟨w.batchRequest batch, answer⟩] ∧
        (∀ id rev, out.2.2.owner.tracker.get? id = some rev →
          link.owner.tracker.get? id = some rev ∨ ∃ place d response entry,
            batch[place]? = some d ∧ d.id = id ∧ answer = .ok response ∧
              response.Yields place entry rev) ∧
        (∀ id, (∀ place d response entry rev, batch[place]? = some d → d.id = id →
            answer = .ok response → ¬response.Yields place entry rev) →
          out.2.2.owner.tracker.get? id = link.owner.tracker.get? id) ∧
        ∃ places : List Nat, places.Nodup ∧
          (∀ place, place ∈ places ↔ place < batch.length ∧
            ∃ response entry rev, answer = .ok response ∧ response.Yields place entry rev) ∧
          out.2.2.owner.stats.documentWrites =
            link.owner.stats.documentWrites + places.length) ∧
    ∀ d,
      let out := ((w.writeDocument d).run link).against reply past
      ∃ puts uploads, callsOf out.1 = puts ++ uploads ∧ Chain.Accepts w d puts uploads ∧
        (∀ call : Call, call.succeeded ↔ ∃ rev, call.Accepted rev) ∧
        out.2.2.owner.tracker = link.owner.tracker ∧
        out.2.2.owner.stats.documentWrites =
          link.owner.stats.documentWrites + puts.countP Call.succeeded ∧
        out.2.2.owner.stats.attachmentWrites =
          link.owner.stats.attachmentWrites + uploads.countP Call.succeeded := by
  refine ⟨fun answer => ⟨fun _ _ _ _ _ => outcome_putDocument_eq_ok_iff,
    fun _ _ _ _ _ _ _ => outcome_putAttachment_eq_ok_iff,
    fun _ _ _ _ _ => exists_revision?_iff _ _ _⟩,
    fun _ => Response.reliable_iff, fun pass batch => ?_, fun d => ?_⟩
  · intro out
    have hflush : (w.flush pass batch).Ensures _ [] link := ensures_flush_results pass batch
    obtain ⟨-, answer, time, hcalls, howner⟩ := hflush.against reply past
    have htracker : out.2.2.owner.tracker =
        link.owner.tracker.learn (gained batch (w.results batch answer)) := by
      rw [howner]
      exact Progress.tracker_recordResults _ batch _
    refine ⟨answer, hcalls, fun id rev h => ?_, fun id h => ?_,
      places batch (w.results batch answer), List.nodup_range.filter _, fun _ => mem_places_iff, ?_⟩
    · rw [htracker] at h
      exact (Tracker.get?_learn h).imp_right mem_gained_results_iff.1
    · rw [htracker]
      apply Tracker.get?_learn_of_notMem
      intro rev hrev
      obtain ⟨place, d, response, entry, hd, hid, hanswer, hyields⟩ := mem_gained_results_iff.1 hrev
      exact h place d response entry rev hd hid hanswer hyields
    · rw [howner]
      exact Progress.documentWrites_recordResults _ batch _
  · intro out
    have hcalls : (w.writeDocument d).Ensures _ [] link := ensures_writeDocument_accepts d
    obtain ⟨-, puts, uploads, hmade, haccepts, htracker, hwrites, huploads⟩ :=
      hcalls.against reply past
    refine ⟨puts, uploads, hmade, haccepts, fun call => ?_, htracker, hwrites, huploads⟩
    rw [Call.succeeded, Option.isSome_iff_exists]
    exact exists_congr fun rev => Call.revision?_eq_some_iff

/-- A response that says that it is ok is reliable, and what comes of it is what it reports; against
a server that gives no other response, two revisions of a document are written. -/
theorem writes_count_as_accepted_plain :
    let w : Worker := ⟨1, "db", ⟨1, 1⟩, { Config.small with bulkBatch := 1, conflicts := 0 }⟩
    let d : Document := ⟨"doc1", none, [], []⟩
    let response : Response := ⟨201, .object [("ok", .bool true), ("rev", .string "1-a")]⟩
    let reply : List Turn → (action : Action) → action.Answer := fun _ action =>
      match action with
      | .send _ => .ok response
      | action => Program.offlineAnswer (fun _ => .error .notFound) action
    let out := ((w.writeDocument d).run { owner := { source := .ofWords #[] } }).against reply []
    response.Accepts ⟨1, "a"⟩ ∧ response.Reliable ∧
      (Operation.putDocument "db" "doc1" none d.body).outcome (.ok response) = .ok ⟨1, "a"⟩ ∧
      out.2.2.owner.stats.documentWrites = 2 ∧
      ∃ puts uploads, callsOf out.1 = puts ++ uploads ∧ puts.countP Call.succeeded = 2 := by
  intro w d response reply out
  obtain ⟨hoperations, hreliable, -, hworker⟩ :=
    writes_count_as_accepted w { owner := { source := .ofWords #[] } } reply []
  have haccepts : response.Accepts ⟨1, "a"⟩ := ⟨by decide, by decide⟩
  have hplain : ¬response.Contradicts := by
    rintro (⟨rev, -, hfailure⟩ | ⟨place, entry, rev, hyields, -⟩)
    · exact absurd hfailure (by decide)
    · obtain ⟨entries, hbody, -⟩ := hyields.entries
      cases hbody
  have hwrites : out.2.2.owner.stats.documentWrites = 2 := by decide +kernel
  obtain ⟨puts, uploads, hcalls, -, -, -, hcount, -⟩ := hworker d
  refine ⟨haccepts, (hreliable response).2 hplain,
    ((hoperations (.ok response)).1 _ _ _ _ _).2 ⟨response, rfl, haccepts⟩, hwrites, puts, uploads,
    hcalls, ?_⟩
  have hzero : ({ source := .ofWords #[] } : Progress).stats.documentWrites = 0 := rfl
  rw [hwrites, hzero, Nat.zero_add] at hcount
  exact hcount.symm

/-- The server says that a write is not ok, and the write counts nevertheless; so does a result of a
bulk write. -/
theorem failure_counts_as_write :
    let w : Worker := ⟨1, "db", ⟨1, 1⟩,
      { Config.small with revisions := 1, bulkBatch := 1, conflicts := 0 }⟩
    let body : Json := .object [("ok", .bool false), ("id", .string "doc1"), ("rev", .string "1-a")]
    let reply (body : Json) : List Turn → (action : Action) → action.Answer := fun _ action =>
      match action with
      | .send _ => .ok ⟨201, body⟩
      | action => Program.offlineAnswer (fun _ => .error .notFound) action
    let d : Document := ⟨"doc1", none, [], []⟩
    let start : Link Progress := { owner := { source := .ofWords #[] } }
    let out := ((w.writeDocument d).run start).against (reply body) []
    let out' := ((w.flush 1 [d]).run start).against (reply (.array [body])) []
    body.ReportsFailure ∧ out.2.2.owner.stats.documentWrites = 1 ∧
      out.2.2.owner.stats.documentFailures = 0 ∧ out'.2.2.owner.stats.documentWrites = 1 ∧
      out'.2.2.owner.tracker = [("doc1", ⟨1, "a"⟩)] := by
  decide +kernel

end Worker

end CouchLoad
