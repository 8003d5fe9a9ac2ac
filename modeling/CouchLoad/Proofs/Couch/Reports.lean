import CouchLoad.Proofs.Couch.Revision
import CouchLoad.Proofs.Program.Trace

/-!
# What answers report

An answer of success may report a failure nevertheless: by a member that says that it is not ok, or
by an error. Writes take an answer by its status and the revision that it carries alone; the results
of a bulk write are looked at for errors, too, but nobody looks whether they are ok.
-/

namespace CouchLoad

/-- A value that reports a failure. -/
def Json.ReportsFailure (v : Json) : Prop :=
  v.field "ok" = .bool false ∨ v.field "error" ≠ .null

instance (v : Json) : Decidable v.ReportsFailure :=
  inferInstanceAs (Decidable (_ ∨ _))

/-- A value that carries a revision. -/
def Json.Carries (v : Json) (rev : Revision) : Prop :=
  Revision.ofJson? (v.field "rev") = some rev

instance (v : Json) (rev : Revision) : Decidable (v.Carries rev) :=
  inferInstanceAs (Decidable (_ = _))

/-- A response of success that carries a revision. -/
structure Response.Accepts (response : Response) (rev : Revision) : Prop where
  success : response.isSuccess = true
  carries : response.body.Carries rev

/-! ### Single writes -/

lemma readRevision_eq_ok_iff {request : Request} {body : Json} {rev : Revision} :
    Operation.readRevision request body = .ok rev ↔ body.Carries rev := by
  unfold Operation.readRevision Json.Carries
  cases body.field "rev" with
  | string text => cases h : Revision.parse? text <;> simp [Json.string?, Revision.ofJson?, h]
  | _ => simp [Json.string?, Revision.ofJson?]

/-- A write comes to a revision just if a response of success carries it. -/
lemma outcome_accepted_eq_ok_iff (request : Request) {answer : Except TransportError Response}
    {rev : Revision} :
    (Operation.accepted request (Operation.readRevision request)).outcome answer = .ok rev ↔
      ∃ response, answer = .ok response ∧ response.Accepts rev := by
  cases answer with
  | error e => simp [Operation.outcome]
  | ok response =>
    have hread : (Operation.accepted request (Operation.readRevision request)).outcome
        (.ok response) = if response.isSuccess then Operation.readRevision request response.body
          else .error (Operation.refusal request response) := rfl
    rw [hread]
    constructor
    · intro h
      split at h
      · exact ⟨response, rfl, ‹_›, readRevision_eq_ok_iff.1 h⟩
      · cases h
    · rintro ⟨_, hanswer, haccepts⟩
      cases hanswer
      rw [if_pos haccepts.success]
      exact readRevision_eq_ok_iff.2 haccepts.carries

/-! ### Results of bulk writes -/

namespace BulkResult

/-- A result with the names of its values, if it is a list of these. -/
def named : Json → Json
  | .array values => .object (["id", "rev", "error", "reason"].zip values)
  | v => v

lemma optionalString?_eq_some_none_iff {v : Json} : optionalString? v = some none ↔ v = .null := by
  cases v <;> simp [optionalString?]

lemma optionalString?_eq_some_some_iff {v : Json} {text : String} :
    optionalString? v = some (some text) ↔ v = .string text := by
  cases v <;> simp [optionalString?]

/-- What a result says about its revision and its error is what its members say. -/
lemma members_of_ofJson? {v : Json} {r : BulkResult} (h : ofJson? v = some r) :
    optionalString? ((named v).field "rev") = some r.rev ∧
      optionalString? ((named v).field "error") = some r.error := by
  have hmake {id rev error reason : Json}
      (hmake : (do
        return ⟨← optionalString? id, ← optionalString? rev, ← optionalString? error,
          ← optionalString? reason⟩ : Option BulkResult) = some r) :
      optionalString? rev = some r.rev ∧ optionalString? error = some r.error := by
    simp only [Option.bind_eq_bind, Option.bind_eq_some_iff, Option.pure_def,
      Option.some.injEq] at hmake
    obtain ⟨_, _, _, hrev, _, herror, _, _, rfl⟩ := hmake
    exact ⟨hrev, herror⟩
  cases v with
  | object members => exact hmake h
  | array values =>
    simp only [ofJson?] at h
    split at h
    · have hparts := hmake h
      rcases values with _ | ⟨a, _ | ⟨b, _ | ⟨c, values⟩⟩⟩ <;> exact hparts
    · cases h
  | _ => cases h

/-- A result is one of success just if it has no error and carries a revision. -/
lemma revision?_eq_some_iff {v : Json} {r : BulkResult} (h : ofJson? v = some r) {rev : Revision} :
    r.revision? = some rev ↔ (named v).field "error" = .null ∧ (named v).Carries rev := by
  obtain ⟨hrev, herror⟩ := members_of_ofJson? h
  unfold revision? Json.Carries
  rw [← optionalString?_eq_some_none_iff, herror, Option.some.injEq]
  cases hnone : r.error with
  | some error => simp
  | none =>
    cases htext : r.rev with
    | none =>
      rw [htext] at hrev
      simp [optionalString?_eq_some_none_iff.1 hrev, Revision.ofJson?]
    | some text =>
      rw [htext] at hrev
      simp [optionalString?_eq_some_some_iff.1 hrev, Revision.ofJson?]

/-- A computation has results for a list just if it has one for each item. -/
lemma mapM_eq_some_iff {α β : Type} {f : α → Option β} {l : List α} {results : List β} :
    l.mapM f = some results ↔ l.map f = results.map some := by
  induction l generalizing results with
  | nil => cases results <;> simp
  | cons a l ih =>
    rw [List.mapM_cons]
    simp only [Option.bind_eq_bind, Option.bind_eq_some_iff, Option.pure_def, Option.some.injEq,
      ih, List.map_cons]
    constructor
    · rintro ⟨b, hb, rest, hrest, rfl⟩
      rw [hb, hrest, List.map_cons]
    · intro h
      obtain ⟨b, rest, rfl, hb, hrest⟩ := List.map_eq_cons_iff.1 h.symm
      exact ⟨b, hb.symm, rest, hrest.symm, rfl⟩

lemma listOfJson?_eq_some_iff {v : Json} {results : List BulkResult} :
    listOfJson? v = some results ↔
      ∃ entries, v = .array entries ∧ entries.map ofJson? = results.map some := by
  cases v <;> simp [listOfJson?, mapM_eq_some_iff]

/-- There are results just if each entry is one. -/
lemma exists_results_iff {entries : List Json} :
    (∃ results : List BulkResult, entries.map ofJson? = results.map some) ↔
      ∀ entry ∈ entries, (ofJson? entry).isSome := by
  constructor
  · rintro ⟨results, h⟩ entry hentry
    obtain ⟨r, -, hr⟩ := List.mem_map.1 (h ▸ List.mem_map_of_mem (f := ofJson?) hentry)
    rw [← hr]
    rfl
  · intro h
    induction entries with
    | nil => exact ⟨[], rfl⟩
    | cons entry entries ih =>
      obtain ⟨hentry, hentries⟩ := List.forall_mem_cons.1 h
      obtain ⟨r, hr⟩ := Option.isSome_iff_exists.1 hentry
      obtain ⟨results, hresults⟩ := ih hentries
      exact ⟨r :: results, by rw [List.map_cons, hr, hresults, List.map_cons]⟩

end BulkResult

/-- A response of success with nothing but results, of which the one in a place has no error and
carries a revision. -/
structure Response.Yields (response : Response) (place : Nat) (entry : Json) (rev : Revision) :
    Prop where
  success : response.isSuccess = true
  entries : ∃ entries, response.body = .array entries ∧ entries[place]? = some entry ∧
    ∀ entry ∈ entries, (BulkResult.ofJson? entry).isSome
  noError : (BulkResult.named entry).field "error" = .null
  carries : (BulkResult.named entry).Carries rev

lemma outcome_bulkDocuments_eq_ok_iff {db : String} {documents : List Json} {newEdits : Bool}
    {answer : Except TransportError Response} {results : List BulkResult} :
    (Operation.bulkDocuments db documents newEdits).outcome answer = .ok results ↔
      ∃ response entries, answer = .ok response ∧ response.isSuccess = true ∧
        response.body = .array entries ∧ entries.map BulkResult.ofJson? = results.map some := by
  cases answer with
  | error e => simp [Operation.outcome]
  | ok response =>
    simp only [Operation.outcome, Operation.bulkDocuments, Operation.accepted, Except.ok.injEq]
    constructor
    · intro h
      split at h
      · rename_i hsuccess
        split at h
        · rename_i results' hresults
          obtain rfl := Except.ok.inj h
          obtain ⟨entries, hbody, hentries⟩ := BulkResult.listOfJson?_eq_some_iff.1 hresults
          exact ⟨response, entries, rfl, hsuccess, hbody, hentries⟩
        · cases h
      · cases h
    · rintro ⟨_, entries, rfl, hsuccess, hbody, hentries⟩
      rw [if_pos hsuccess, BulkResult.listOfJson?_eq_some_iff.2 ⟨entries, hbody, hentries⟩]

/-- A result in a place comes to a revision just if the entry in this place does. -/
lemma exists_revision?_iff (db : String) (documents : List Json) (newEdits : Bool)
    {answer : Except TransportError Response} {place : Nat} {rev : Revision} :
    (∃ results r, (Operation.bulkDocuments db documents newEdits).outcome answer = .ok results ∧
      results[place]? = some r ∧ r.revision? = some rev) ↔
      ∃ response entry, answer = .ok response ∧ response.Yields place entry rev := by
  constructor
  · rintro ⟨results, r, houtcome, hr, hrev⟩
    obtain ⟨response, entries, hanswer, hsuccess, hbody, hentries⟩ :=
      outcome_bulkDocuments_eq_ok_iff.1 houtcome
    have hplace := congrArg (·[place]?) hentries
    simp only [List.getElem?_map, hr, Option.map_some, Option.map_eq_some_iff] at hplace
    obtain ⟨entry, hentry, hread⟩ := hplace
    obtain ⟨herror, hcarries⟩ := (BulkResult.revision?_eq_some_iff hread).1 hrev
    exact ⟨response, entry, hanswer, hsuccess,
      ⟨entries, hbody, hentry, BulkResult.exists_results_iff.1 ⟨results, hentries⟩⟩, herror,
      hcarries⟩
  · rintro ⟨response, entry, hanswer, hsuccess, ⟨entries, hbody, hentry, hall⟩, herror, hcarries⟩
    obtain ⟨results, hentries⟩ := BulkResult.exists_results_iff.2 hall
    have hplace := congrArg (·[place]?) hentries
    simp only [List.getElem?_map, hentry, Option.map_some] at hplace
    obtain ⟨r, hr, hread⟩ := Option.map_eq_some_iff.1 hplace.symm
    exact ⟨results, r,
      outcome_bulkDocuments_eq_ok_iff.2 ⟨response, entries, hanswer, hsuccess, hbody, hentries⟩, hr,
      (BulkResult.revision?_eq_some_iff hread.symm).2 ⟨herror, hcarries⟩⟩

/-- A response that is accepted although it reports a failure, as a whole or by an entry that says
that it is not ok. -/
def Response.Contradicts (response : Response) : Prop :=
  (∃ rev, response.Accepts rev ∧ response.body.ReportsFailure) ∨
    ∃ place entry rev, response.Yields place entry rev ∧
      (BulkResult.named entry).field "ok" = .bool false

/-- A response out of which operations take nothing but successes that it reports: each revision is
one that it carries, as a whole or in the place of a result, and no failure is reported there. -/
structure Response.Reliable (response : Response) : Prop where
  document : ∀ db id current body rev,
    (Operation.putDocument db id current body).outcome (.ok response) = .ok rev →
      response.isSuccess = true ∧ ¬response.body.ReportsFailure ∧ response.body.Carries rev
  attachment : ∀ db id name current contentType body rev,
    (Operation.putAttachment db id name current contentType body).outcome (.ok response) = .ok rev →
      response.isSuccess = true ∧ ¬response.body.ReportsFailure ∧ response.body.Carries rev
  entry : ∀ db documents newEdits results (place : Nat) (r : BulkResult) rev,
    (Operation.bulkDocuments db documents newEdits).outcome (.ok response) = .ok results →
      results[place]? = some r → r.revision? = some rev →
        response.isSuccess = true ∧ ∃ entries entry, response.body = .array entries ∧
          entries[place]? = some entry ∧ ¬(BulkResult.named entry).ReportsFailure ∧
            (BulkResult.named entry).Carries rev

lemma outcome_putDocument_eq_ok_iff {db id : String} {current : Option Revision} {body : Json}
    {answer : Except TransportError Response} {rev : Revision} :
    (Operation.putDocument db id current body).outcome answer = .ok rev ↔
      ∃ response, answer = .ok response ∧ response.Accepts rev := by
  cases current <;> exact outcome_accepted_eq_ok_iff _

lemma outcome_putAttachment_eq_ok_iff {db id name : String} {current : Revision}
    {contentType : Option String} {body : Body} {answer : Except TransportError Response}
    {rev : Revision} :
    (Operation.putAttachment db id name current contentType body).outcome answer = .ok rev ↔
      ∃ response, answer = .ok response ∧ response.Accepts rev :=
  outcome_accepted_eq_ok_iff _

/-- Nothing but a contradiction in a response makes it unreliable. -/
lemma Response.reliable_iff {response : Response} : response.Reliable ↔ ¬response.Contradicts := by
  constructor
  · rintro h (⟨rev, haccepts, hfailure⟩ | ⟨place, entry, rev, hyields, hok⟩)
    · exact (h.document "" "" none .null rev
        (outcome_putDocument_eq_ok_iff.2 ⟨response, rfl, haccepts⟩)).2.1 hfailure
    · obtain ⟨results, r, hresults, hr, hrev⟩ :=
        (exists_revision?_iff "" [] true).2 ⟨response, entry, rfl, hyields⟩
      obtain ⟨-, entries, entry', hbody, hentry', hplain, -⟩ :=
        h.entry _ _ _ _ _ _ _ hresults hr hrev
      obtain ⟨entries', hbody', hentry, -⟩ := hyields.entries
      rw [hbody, Json.array.injEq] at hbody'
      rw [hbody', hentry, Option.some.injEq] at hentry'
      exact hplain (hentry' ▸ .inl hok)
  · intro hplain
    have hsingle {rev} (h : ∃ r, (.ok response : Except TransportError Response) = .ok r ∧
        r.Accepts rev) :
        response.isSuccess = true ∧ ¬response.body.ReportsFailure ∧ response.body.Carries rev := by
      obtain ⟨_, hanswer, haccepts⟩ := h
      cases hanswer
      exact ⟨haccepts.success, fun hfailure => hplain (.inl ⟨rev, haccepts, hfailure⟩),
        haccepts.carries⟩
    refine ⟨fun _ _ _ _ _ h => hsingle (outcome_putDocument_eq_ok_iff.1 h),
      fun _ _ _ _ _ _ _ h => hsingle (outcome_putAttachment_eq_ok_iff.1 h), ?_⟩
    intro db documents newEdits results place r rev hresults hr hrev
    obtain ⟨_, entry, hanswer, hyields⟩ :=
      (exists_revision?_iff db documents newEdits).1 ⟨results, r, hresults, hr, hrev⟩
    cases hanswer
    obtain ⟨entries, hbody, hentry, -⟩ := hyields.entries
    refine ⟨hyields.success, entries, entry, hbody, hentry, ?_, hyields.carries⟩
    rintro (hok | herror)
    · exact hplain (.inr ⟨place, entry, rev, hyields, hok⟩)
    · exact herror hyields.noError

end CouchLoad
