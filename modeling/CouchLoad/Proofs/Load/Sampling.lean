import CouchLoad.Proofs.Load.Submissions

/-!
# Samples of response times

A worker takes a sample for each document and each attachment that it writes alone, and none where
the write fails. For a batch it takes one in any case: before it looks at what came of it.
-/

namespace CouchLoad

/-! ### What is measured -/

/-- The results that a call has returned, if it was answered by a list of them. -/
def Call.results? (call : Call) : Option (List BulkResult) :=
  match call.answer with
  | .ok response => if response.isSuccess then BulkResult.listOfJson? response.body else none
  | .error _ => none

/-- Whether the store has accepted a call: it was answered by a success, with the results of a batch
or with the revision of a write. -/
def Call.fulfilled (call : Call) : Bool :=
  if call.request.method = .post then call.results?.isSome else call.succeeded

/-- What is measured by a call: attachments have a segment of their own in the path. -/
def Call.kind (call : Call) : SampleKind :=
  if call.request.path.length = 2 then .document else .attachment

/-- The calls that measure something of a kind. -/
def measuring (kind : SampleKind) (calls : List Call) : List Call :=
  calls.filter fun call => call.kind = kind

/-- The requests of a worker, and what is measured by each of them. -/
inductive Request.Measures (db : String) : Request → SampleKind → Prop where
  | document (id : String) (rev : Option Revision) (body : Json) :
      Measures db (Operation.putDocument db id rev body).request .document
  | batch (documents : List Json) (newEdits : Bool) :
      Measures db (Operation.bulkDocuments db documents newEdits).request .document
  | attachment (id name : String) (rev : Revision) (contentType : Option String) (body : Body) :
      Measures db (Operation.putAttachment db id name rev contentType body).request .attachment

/-- Whether a worker takes a sample of a call: of a batch in any case, and else where the store has
accepted the call. -/
def Worker.samples (w : Worker) (kind : SampleKind) (call : Call) : Bool :=
  w.config.usesBulk && kind = .document || call.fulfilled

/-- What a worker keeps of some calls: the samples that it takes, and a count of the uploads that
the store has accepted. -/
structure Progress.Sampled (w : Worker) (calls : List Call) (p : Progress) : Prop where
  requests : ∀ call ∈ calls, call.request.Measures w.db call.kind
  samples : ∀ kind, p.samples.count kind = (measuring kind calls).countP (w.samples kind)
  uploads : p.stats.attachmentWrites = (measuring .attachment calls).countP Call.fulfilled

/-! ### Calls -/

lemma Request.Measures.kind {db : String} {r : Request} {kind : SampleKind} (h : r.Measures db kind)
    (answer : Except TransportError Response) : Call.kind ⟨r, answer⟩ = kind := by
  cases h with
  | document id rev body => cases rev <;> rfl
  | batch documents newEdits => rfl
  | attachment id name rev contentType body => rfl

section Fulfilled

variable (db id name : String) (answer : Except TransportError Response)

lemma fulfilled_putDocument (current : Option Revision) (body : Json) :
    Call.fulfilled ⟨(Operation.putDocument db id current body).request, answer⟩ =
      ((Operation.putDocument db id current body).outcome answer).toOption.isSome := by
  cases current <;> rfl

lemma fulfilled_putAttachment (current : Revision) (contentType : Option String) (body : Body) :
    Call.fulfilled ⟨(Operation.putAttachment db id name current contentType body).request, answer⟩ =
      ((Operation.putAttachment db id name current contentType body).outcome
        answer).toOption.isSome := rfl

lemma fulfilled_bulkDocuments (documents : List Json) (newEdits : Bool) :
    Call.fulfilled ⟨(Operation.bulkDocuments db documents newEdits).request, answer⟩ =
      ((Operation.bulkDocuments db documents newEdits).outcome answer).toOption.isSome := by
  cases answer with
  | error e => rfl
  | ok response =>
    show (Call.results? ⟨_, .ok response⟩).isSome = _
    unfold Call.results?
    dsimp only [Operation.outcome, Operation.bulkDocuments, Operation.accepted]
    split
    · cases BulkResult.listOfJson? response.body <;> rfl
    · rfl

end Fulfilled

namespace Worker

variable {w : Worker}

lemma samples_attachment (w : Worker) : w.samples .attachment = Call.fulfilled := by
  funext call
  simp [samples]

lemma samples_document_of_single (h : w.config.usesBulk = false) :
    w.samples .document = Call.fulfilled := by
  funext call
  simp [samples, h]

lemma samples_document_of_bulk (h : w.config.usesBulk = true) :
    w.samples .document = fun _ => true := by
  funext call
  simp [samples, h]

end Worker

/-! ### Counting -/

@[simp] lemma Samples.count_extend (s : Samples) (kind kind' : SampleKind) (times : Array Nat) :
    (s.extend kind times).count kind' = s.count kind' + if kind' = kind then times.size else 0 := by
  cases kind <;> cases kind' <;> simp [extend, count, Samples.times]

lemma measuring_append (kind : SampleKind) (calls calls' : List Call) :
    measuring kind (calls ++ calls') = measuring kind calls ++ measuring kind calls' :=
  List.filter_append ..

/-- Calls that all measure the same count for this kind only. -/
lemma countP_measuring {db : String} {kind : SampleKind} {calls : List Call}
    (h : ∀ call ∈ calls, call.request.Measures db kind) (f : Call → Bool) (kind' : SampleKind) :
    (measuring kind' calls).countP f = if kind' = kind then calls.countP f else 0 := by
  have hkind : ∀ call ∈ calls, call.kind = kind := fun call hcall => (h call hcall).kind _
  split_ifs with heq
  · have hall : ∀ call ∈ calls, decide (call.kind = kind') = true := by
      intro call hcall
      simp [hkind call hcall, heq]
    rw [measuring, List.filter_eq_self.2 hall]
  · have hnone : ∀ call ∈ calls, ¬decide (call.kind = kind') = true := by
      intro call hcall
      simpa [hkind call hcall] using Ne.symm heq
    rw [measuring, List.filter_eq_nil_iff.2 hnone]
    rfl

namespace Progress.Sampled

variable {w : Worker} {calls : List Call} {p q : Progress} {kind : SampleKind} {call : Call}

lemma start (w : Worker) (source : Entropy.Source) : Sampled w [] { source } :=
  ⟨by simp, fun kind => by cases kind <;> rfl, rfl⟩

/-- Whatever else a worker keeps does not matter. -/
lemma congr (h : p.Sampled w calls) (hsamples : q.samples = p.samples)
    (huploads : q.stats.attachmentWrites = p.stats.attachmentWrites) : q.Sampled w calls where
  requests := h.requests
  samples := hsamples ▸ h.samples
  uploads := huploads.trans h.uploads

/-- Calls that all measure the same add samples and uploads of their own. -/
lemma add (h : p.Sampled w calls) {more : List Call}
    (hmore : ∀ call ∈ more, call.request.Measures w.db kind)
    (hsamples : ∀ kind', q.samples.count kind' =
      p.samples.count kind' + if kind' = kind then more.countP (w.samples kind) else 0)
    (huploads : q.stats.attachmentWrites = p.stats.attachmentWrites +
      if .attachment = kind then more.countP Call.fulfilled else 0) :
    q.Sampled w (calls ++ more) where
  requests := by
    intro call hcall
    rcases List.mem_append.1 hcall with hcall | hcall
    · exact h.requests call hcall
    · rw [(hmore call hcall).kind call.answer]
      exact hmore call hcall
  samples kind' := by
    rw [measuring_append, List.countP_append, countP_measuring hmore, hsamples, h.samples]
    split_ifs with heq
    · rw [heq]
    · rfl
  uploads := by
    rw [measuring_append, List.countP_append, countP_measuring hmore, huploads, h.uploads]

/-- A call that the store has accepted is sampled, and an upload is counted. -/
lemma accept (h : p.Sampled w calls) (hcall : call.request.Measures w.db kind)
    (hfulfilled : call.fulfilled = true) (time : Nat)
    (hsamples : q.samples = p.samples.push kind time)
    (huploads : q.stats.attachmentWrites =
      p.stats.attachmentWrites + if .attachment = kind then 1 else 0) :
    q.Sampled w (calls ++ [call]) := by
  refine h.add (List.forall_mem_singleton.2 hcall) (fun kind' => ?_) ?_
  · simp [hsamples, Samples.push, Worker.samples, hfulfilled]
  · simp [huploads, hfulfilled]

/-- Of a call that writes alone and fails no sample is taken. -/
lemma reject (h : p.Sampled w calls) (hbulk : w.config.usesBulk = false)
    (hcall : call.request.Measures w.db kind) (hfulfilled : call.fulfilled = false)
    (hsamples : q.samples = p.samples)
    (huploads : q.stats.attachmentWrites = p.stats.attachmentWrites) :
    q.Sampled w (calls ++ [call]) := by
  refine h.add (List.forall_mem_singleton.2 hcall) (fun kind' => ?_) ?_
  · simp [hsamples, Worker.samples, hfulfilled, hbulk]
  · simp [huploads, hfulfilled]

/-- Of batches samples are taken in any case. -/
lemma batches (h : p.Sampled w calls) (hbulk : w.config.usesBulk = true) {more : List Call}
    (hmore : ∀ call ∈ more, call.request.Measures w.db .document) {times : Array Nat}
    (htimes : times.size = more.length) (hsamples : q.samples = p.samples.extend .document times)
    (huploads : q.stats.attachmentWrites = p.stats.attachmentWrites) :
    q.Sampled w (calls ++ more) := by
  refine h.add hmore (fun kind' => ?_) huploads
  have hall : more.countP (w.samples .document) = more.length :=
    List.countP_eq_length.2 fun call _ => by simp [Worker.samples, hbulk]
  rw [hsamples, Samples.count_extend, htimes, hall]

end Progress.Sampled

/-! ### The loops of a worker -/

/-- Recording results takes no samples. -/
lemma Progress.samples_recordResults (p : Progress) (batch : List Document)
    (results : List BulkResult) : (p.recordResults batch results).samples = p.samples ∧
      (p.recordResults batch results).stats.attachmentWrites = p.stats.attachmentWrites := by
  induction batch generalizing p results with
  | nil => exact ⟨rfl, rfl⟩
  | cons d ds ih =>
    cases results with
    | nil => exact ⟨rfl, rfl⟩
    | cons r rs =>
      obtain ⟨hsamples, huploads⟩ := ih (p.recordResult d r) rs
      rw [recordResults, hsamples, huploads]
      unfold recordResult
      split <;> exact ⟨rfl, rfl⟩

section Loops

open Session

variable {w : Worker} {calls : List Call} {link : Link Progress}

/-- Of the revisions and of the attachments of a document those that are accepted are sampled. -/
lemma samples_writeDocument (hbulk : w.config.usesBulk = false) (d : Document)
    (h : link.owner.Sampled w calls) :
    (w.writeDocument d).Ensures (fun _ calls link => link.owner.Sampled w calls) calls link := by
  refine ensures_bind (ensures_logic.holds_putRevisions (fun _ _ => trivial)
    (fun _ _ calls link => link.owner.Sampled w calls) ?put ?uploads _ h)
  case put =>
    intro pass passes current calls link h
    refine ensures_perform fun answer n time => ?_
    generalize Document.body { d with rev := current.map Revision.display } = body
    have hcall : Request.Measures w.db _ _ := .document d.id current body
    have hfulfilled := fulfilled_putDocument w.db d.id answer current body
    generalize (Operation.putDocument w.db d.id current body).outcome answer = result
      at hfulfilled ⊢
    cases result with
    | ok rev => exact h.accept hcall hfulfilled time rfl rfl
    | error e => exact ensures_pure (h.reject hbulk hcall hfulfilled rfl rfl)
  case uploads =>
    intro last calls link h
    cases last with
    | none => exact ensures_pure h
    | some rev =>
      refine ensures_logic.holds_uploadAttachments (fun _ _ => trivial)
        (fun _ _ calls link => link.owner.Sampled w calls) ?_ (fun _ _ _ h => h) _ h
      intro a rest rev calls link h
      refine ensures_perform fun answer n time => ?_
      generalize Worker.payloadBody a.payload = body
      have hcall : Request.Measures w.db _ _ := .attachment d.id a.name rev a.contentType body
      have hfulfilled := fulfilled_putAttachment w.db d.id a.name answer rev a.contentType body
      generalize (Operation.putAttachment w.db d.id a.name rev a.contentType body).outcome answer =
        result at hfulfilled ⊢
      cases result with
      | ok next => exact h.accept hcall hfulfilled time rfl rfl
      | error e => exact h.reject hbulk hcall hfulfilled rfl rfl

/-- A batch is sampled whatever comes of it, and so is every pass of conflicts. -/
lemma samples_submit (hbulk : w.config.usesBulk = true) (pass : Nat) (batch : List Document)
    (h : link.owner.Sampled w calls) :
    (w.submit pass batch).Ensures (fun _ calls link => link.owner.Sampled w calls) calls link := by
  refine ensures_bind ((ensures_flush_results pass batch).mono ?_)
  rintro _ _ link' ⟨answer, time, rfl, howner⟩
  have hflush : link'.owner.Sampled w (calls ++ [⟨w.batchRequest batch, answer⟩]) := by
    obtain ⟨hsamples, huploads⟩ := Progress.samples_recordResults
      (link.owner.launch.land.sample .document time) batch (w.results batch answer)
    rw [howner]
    exact h.batches hbulk (List.forall_mem_singleton.2 (.batch _ _)) rfl hsamples huploads
  split
  · apply (ensures_addConflicts batch).mono
    rintro _ _ link'' ⟨more, o, s, rfl, hmore, htimes, -, howner'⟩
    rw [howner']
    refine hflush.batches hbulk (fun call hcall => ?_) htimes rfl rfl
    obtain ⟨bodies, hbodies⟩ := hmore call hcall
    rw [hbodies]
    exact .batch _ _
  · exact ensures_pure hflush

/-- A worker samples its calls by one rule, whichever way it writes. -/
lemma samples_work (h : link.owner.Sampled w calls) :
    w.work.Ensures (fun _ calls link => link.owner.Sampled w calls) calls link := by
  refine ensures_logic.holds_work trivial (fun hbulk => ?batches) fun hbulk => ?each
  case batches =>
    refine ensures_logic.holds_writePasses (fun _ calls link => link.owner.Sampled w calls) _ ?_ _ h
    intro pass passes calls link h
    have hwaiting : ([] : List Document).length < w.config.bulkBatch := Config.bulkBatch_pos hbulk
    refine (ensures_logic.holds_writePass (fun _ _ calls link => link.owner.Sampled w calls)
      (fun _ _ _ _ _ => trivial) ?_ ?_ ?_ _ hwaiting h).mono fun _ _ _ h => h.congr rfl rfl
    · intro r e batch counters calls link h _ _
      exact h.congr rfl rfl
    · intro r d batch counters calls link h _ _
      exact h.congr rfl rfl
    · intro batch counters calls link _ _ _ h
      exact samples_submit hbulk pass batch h
  case each =>
    refine ensures_logic.holds_writeEach (fun _ _ => trivial)
      (fun _ calls link => link.owner.Sampled w calls) ?_ ?_ _ h
    · intro r e counters calls link h _ _
      exact h.congr rfl rfl
    · intro r d counters calls link h _ _
      exact samples_writeDocument hbulk d (h.congr rfl rfl)

end Loops

/-! ### Whole runs of a worker -/

/-- Whatever the server answers, a worker takes a sample of each upload that the store has accepted,
and counts these uploads. Where it writes documents one by one it takes a sample of each write that
the store has accepted, and where it writes batches of each that it has sent. So the samples are the
writes that were accepted just where nothing is written in batches or every batch is accepted. -/
theorem samples_of_calls (w : Worker) (reply : List Turn → (action : Action) → action.Answer)
    (source : Entropy.Source) :
    (∀ answer : Except TransportError Response,
      (∀ id rev body, (Call.fulfilled ⟨(Operation.putDocument w.db id rev body).request, answer⟩ ↔
        ∃ next, (Operation.putDocument w.db id rev body).outcome answer = .ok next)) ∧
      (∀ documents newEdits,
        (Call.fulfilled ⟨(Operation.bulkDocuments w.db documents newEdits).request, answer⟩ ↔
          ∃ results, (Operation.bulkDocuments w.db documents newEdits).outcome answer =
            .ok results)) ∧
      ∀ id name rev contentType body,
        (Call.fulfilled
            ⟨(Operation.putAttachment w.db id name rev contentType body).request, answer⟩ ↔
          ∃ next, (Operation.putAttachment w.db id name rev contentType body).outcome answer =
            .ok next)) ∧
    let out := (w.program source).against reply []
    let writes := measuring .document (callsOf out.1)
    let uploads := measuring .attachment (callsOf out.1)
    (∀ call ∈ callsOf out.1, call.request.Measures w.db call.kind) ∧
      out.2.samples.count .attachment = out.2.stats.attachmentWrites ∧
      out.2.stats.attachmentWrites = uploads.countP Call.fulfilled ∧
      out.2.samples.count .document =
        (if w.config.usesBulk then writes.length else writes.countP Call.fulfilled) ∧
      (out.2.samples.count .document = writes.countP Call.fulfilled ↔
        w.config.usesBulk = false ∨ ∀ call ∈ writes, call.fulfilled) := by
  refine ⟨fun answer => ⟨fun id rev body => ?_, fun documents newEdits => ?_,
    fun id name rev contentType body => ?_⟩, ?_⟩
  · rw [fulfilled_putDocument, toOption_isSome_iff]
  · rw [fulfilled_bulkDocuments, toOption_isSome_iff]
  · rw [fulfilled_putAttachment, toOption_isSome_iff]
  · intro out writes uploads
    have hprogram : (w.program source).Ensures (fun l report => ∃ p : Progress,
        p.Sampled w l.calls ∧ report.samples = p.samples ∧
          report.stats.attachmentWrites = p.stats.attachmentWrites) {} := by
      let link : Link Progress := { owner := { source } }
      have hwork : w.work.Ensures (fun _ calls link => link.owner.Sampled w calls) [] link :=
        samples_work (.start w source)
      refine Program.Ensures.bind (Program.Ensures.mono hwork ?_)
      rintro l ⟨⟨⟩, link⟩ ⟨-, h⟩
      exact ⟨link.owner, h, rfl, rfl⟩
    obtain ⟨p, hsampled, hsamples, huploads⟩ := hprogram.against reply []
    have hp : p.Sampled w (callsOf out.1) := hsampled
    have hcount (kind : SampleKind) : out.2.samples.count kind =
        (measuring kind (callsOf out.1)).countP (w.samples kind) := by
      rw [← hp.samples kind, hsamples]
    have hwrites : out.2.stats.attachmentWrites = uploads.countP Call.fulfilled :=
      huploads.trans hp.uploads
    have hattachments : out.2.samples.count .attachment = uploads.countP Call.fulfilled := by
      rw [hcount, Worker.samples_attachment]
    refine ⟨hp.requests, hattachments.trans hwrites.symm, hwrites, ?_⟩
    rw [hcount]
    cases hbulk : w.config.usesBulk with
    | false =>
      rw [Worker.samples_document_of_single hbulk]
      exact ⟨rfl, fun _ => .inl rfl, fun _ => rfl⟩
    | true =>
      rw [Worker.samples_document_of_bulk hbulk, List.countP_true]
      refine ⟨rfl, fun h => .inr (List.countP_eq_length.1 h.symm), ?_⟩
      rintro (h | h)
      · cases h
      · exact (List.countP_eq_length.2 h).symm

/-- No request is answered. A worker that writes a batch takes a sample of it, and one that writes
the same document alone takes none. -/
theorem lost_batch_is_sampled :
    let worker (bulkBatch : Nat) : Worker :=
      ⟨1, "testdb", ⟨1, 1⟩, { Config.small with revisions := 1, bulkBatch, conflicts := 0 }⟩
    let out (bulkBatch : Nat) := ((worker bulkBatch).program (.ofSeed 0)).against
      (fun _ => Program.offlineAnswer fun _ => .error .notFound) []
    let writes (bulkBatch : Nat) := measuring .document (callsOf (out bulkBatch).1)
    (out 2).2.samples.count .document = 1 ∧ (writes 2).length = 1 ∧
      (writes 2).countP Call.fulfilled = 0 ∧
      (out 1).2.samples.count .document = 0 ∧ (writes 1).length = 1 ∧
      (writes 1).countP Call.fulfilled = 0 := by
  decide +kernel

end CouchLoad
