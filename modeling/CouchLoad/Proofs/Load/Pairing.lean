import CouchLoad.Proofs.Load.Submissions

/-!
# Results and their documents

The results of a bulk write name documents, but nobody looks at these names: a result belongs to
the document in its place. So no revision is remembered for another document as long as the results
stand in the places of their documents. A result that is missing at the end does no harm to this,
and one that is missing before others moves all of these to documents that they are not for.
-/

namespace CouchLoad

/-- A result without an id, or with the id of the document. -/
def BulkResult.IsFor (r : BulkResult) (id : String) : Prop :=
  r.id = none ∨ r.id = some id

instance (r : BulkResult) (id : String) : Decidable (r.IsFor id) :=
  inferInstanceAs (Decidable (_ ∨ _))

/-- Results in the places of their documents. There may be fewer of them than documents, or more. -/
def Parallel (batch : List Document) (results : List BulkResult) : Prop :=
  ∀ pair ∈ batch.zip results, pair.2.IsFor pair.1.id

instance (batch : List Document) (results : List BulkResult) :
    Decidable (Parallel batch results) :=
  inferInstanceAs (Decidable (∀ pair ∈ _, _))

/-- The new revisions in the results, each with the id of the document in its place. -/
def gained (batch : List Document) (results : List BulkResult) : List (String × Revision) :=
  (batch.zip results).filterMap fun pair => pair.2.revision?.map (pair.1.id, ·)

@[simp] lemma gained_nil (results : List BulkResult) : gained [] results = [] := rfl

@[simp] lemma gained_nil_right (batch : List Document) : gained batch [] = [] := by
  simp [gained]

@[simp] lemma gained_cons (d : Document) (batch : List Document) (r : BulkResult)
    (results : List BulkResult) :
    gained (d :: batch) (r :: results) =
      (r.revision?.map (d.id, ·)).toList ++ gained batch results := by
  cases h : r.revision? <;> simp [gained, h]

lemma mem_gained_iff {batch : List Document} {results : List BulkResult} {id : String}
    {rev : Revision} :
    (id, rev) ∈ gained batch results ↔
      ∃ (place : Nat) (d : Document) (r : BulkResult), batch[place]? = some d ∧
        results[place]? = some r ∧ d.id = id ∧ r.revision? = some rev := by
  constructor
  · intro h
    obtain ⟨⟨d, r⟩, hpair, hrev⟩ := List.mem_filterMap.1 h
    obtain ⟨place, hplace⟩ := List.mem_iff_getElem?.1 hpair
    obtain ⟨hd, hr⟩ := List.getElem?_zip_eq_some.1 hplace
    obtain ⟨rev', hrev', hout⟩ := Option.map_eq_some_iff.1 hrev
    cases hout
    exact ⟨place, d, r, hd, hr, rfl, hrev'⟩
  · rintro ⟨place, d, r, hd, hr, rfl, hrev⟩
    have hplace : (batch.zip results)[place]? = some (d, r) :=
      List.getElem?_zip_eq_some.2 ⟨hd, hr⟩
    apply List.mem_filterMap.2
    exact ⟨(d, r), List.mem_of_getElem? hplace, by simp [hrev]⟩

/-- What is gained from results in the places of their documents are revisions of these. -/
lemma Parallel.isFor {batch : List Document} {results : List BulkResult} {id : String}
    {rev : Revision} (h : Parallel batch results) (hmem : (id, rev) ∈ gained batch results) :
    ∃ r ∈ results, r.revision? = some rev ∧ r.IsFor id := by
  obtain ⟨place, d, r, hd, hr, rfl, hrev⟩ := mem_gained_iff.1 hmem
  have hpair : (batch.zip results)[place]? = some (d, r) :=
    List.getElem?_zip_eq_some.2 ⟨hd, hr⟩
  exact ⟨r, List.mem_of_getElem? hr, hrev, h (d, r) (List.mem_of_getElem? hpair)⟩

/-- Remember revisions one after the other. -/
def Tracker.learn (t : Tracker) (revisions : List (String × Revision)) : Tracker :=
  revisions.foldl (fun t entry => t.insert entry.1 entry.2) t

lemma Progress.tracker_recordResults (p : Progress) (batch : List Document)
    (results : List BulkResult) :
    (p.recordResults batch results).tracker = p.tracker.learn (gained batch results) := by
  induction batch generalizing p results with
  | nil => rfl
  | cons d ds ih =>
    cases results with
    | nil => simp [recordResults, Tracker.learn, failDocuments, count]
    | cons r rs =>
      rw [recordResults, ih, gained_cons]
      cases hrev : r.revision? with
      | none => simp [recordResult, hrev, failDocuments, count]
      | some rev => simp [recordResult, hrev, count, Tracker.learn]

namespace Worker

/-- A revision is remembered for a document just where a result in the place of this document
reports it, whatever the answer is and whatever has been remembered before. So it is a revision of
this document if the results stand in the places of their documents. -/
theorem flush_pairs_by_place (w : Worker) (pass : Nat) (batch : List Document)
    (link : Link Progress) (reply : List Turn → (action : Action) → action.Answer)
    (past : List Turn) :
    let out := ((w.flush pass batch).run link).against reply past
    ∃ answer, callsOf out.1 = [⟨w.batchRequest batch, answer⟩] ∧
      let results := w.results batch answer
      out.2.2.owner.tracker = link.owner.tracker.learn (gained batch results) ∧
        (∀ id rev, (id, rev) ∈ gained batch results ↔
          ∃ (place : Nat) (d : Document) (r : BulkResult), batch[place]? = some d ∧
            results[place]? = some r ∧ d.id = id ∧ r.revision? = some rev) ∧
        (Parallel batch results → ∀ id rev, (id, rev) ∈ gained batch results →
          ∃ r ∈ results, r.revision? = some rev ∧ r.IsFor id) := by
  intro out
  have hflush : (w.flush pass batch).Ensures _ [] link := ensures_flush_results pass batch
  obtain ⟨-, answer, time, hcalls, howner⟩ := hflush.against reply past
  refine ⟨answer, hcalls, ?_, fun _ _ => mem_gained_iff, fun h _ _ => h.isFor⟩
  rw [howner]
  exact Progress.tracker_recordResults (link.owner.launch.land.sample .document time) batch _

/-- An instance where the second result is a failure and the third one is missing. -/
theorem flush_pairs_by_place_short :
    let w : Worker := ⟨1, "db", ⟨1, 3⟩, { Config.small with bulkBatch := 3 }⟩
    let document (id : String) : Document := ⟨id, none, [], []⟩
    let batch := [document "doc1", document "doc2", document "doc3"]
    let response : Response :=
      ⟨201, .array [.object [("id", .string "doc1"), ("rev", .string "1-a")],
        .object [("id", .string "doc2"), ("error", .string "conflict")]]⟩
    let reply : List Turn → (action : Action) → action.Answer := fun _ action =>
      match action with
      | .send _ => .ok response
      | action => Program.offlineAnswer (fun _ => .error .notFound) action
    let out := ((w.flush 1 batch).run { owner := { source := .ofWords #[] } }).against reply []
    Parallel batch (w.results batch (.ok response)) ∧ out.2.2.owner.tracker = [("doc1", ⟨1, "a"⟩)] ∧
      ∃ r ∈ w.results batch (.ok response), r.revision? = some ⟨1, "a"⟩ ∧ r.IsFor "doc1" := by
  intro w document batch response reply out
  have hparallel : Parallel batch (w.results batch (.ok response)) := by decide +kernel
  have hcalls : callsOf out.1 = [⟨w.batchRequest batch, .ok response⟩] := rfl
  obtain ⟨answer, hcalls', htracker, -, hpairs⟩ :=
    flush_pairs_by_place w 1 batch { owner := { source := .ofWords #[] } } reply []
  rw [hcalls, List.cons.injEq, Call.mk.injEq] at hcalls'
  obtain ⟨⟨-, rfl⟩, -⟩ := hcalls'
  refine ⟨hparallel, htracker.trans (by decide +kernel), ?_⟩
  exact hpairs hparallel "doc1" ⟨1, "a"⟩ (by decide +kernel)

/-- The result in the middle is missing, and the one behind it is taken for the document in the
middle. -/
theorem flush_pairs_out_of_place :
    let w : Worker := ⟨1, "db", ⟨1, 3⟩, { Config.small with bulkBatch := 3 }⟩
    let document (id : String) : Document := ⟨id, none, [], []⟩
    let batch := [document "doc1", document "doc2", document "doc3"]
    let answer : Response :=
      ⟨201, .array [.object [("id", .string "doc1"), ("rev", .string "1-a")],
        .object [("id", .string "doc3"), ("rev", .string "1-c")]]⟩
    let reply : List Turn → (action : Action) → action.Answer := fun _ action =>
      match action with
      | .send _ => .ok answer
      | action => Program.offlineAnswer (fun _ => .error .notFound) action
    let out := ((w.flush 1 batch).run { owner := { source := .ofWords #[] } }).against reply []
    out.2.2.owner.tracker.get? "doc2" = some ⟨1, "c"⟩ ∧
      ¬ ∃ r ∈ w.results batch (.ok answer), r.revision? = some ⟨1, "c"⟩ ∧ r.IsFor "doc2" := by
  decide +kernel

end Worker

end CouchLoad
