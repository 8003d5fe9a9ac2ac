import CouchLoad.Proofs.Entropy.Draws
import CouchLoad.Proofs.Load.Calls

/-!
# What a worker submits in batches

In every pass a worker that writes batches submits each document that it has rendered in exactly one
batch, in the order of the counters. It does so against any server and whatever cannot be rendered,
and in the end every counter has been counted once for each pass.
-/

namespace CouchLoad

open Entropy

/-! ### Requests and passes -/

/-- Whether a request asks for new edits, and does not store revisions as they are. -/
def Request.makesEdits (r : Request) : Bool :=
  decide (r.members.get? "new_edits" ≠ some (.bool false))

/-- The requests of some calls that ask for new edits, in their order. -/
def edits (calls : List Call) : List Request :=
  (calls.map Call.request).filter Request.makesEdits

/-- The request that writes a batch. -/
def Worker.batchRequest (w : Worker) (batch : List Document) : Request :=
  (Operation.bulkDocuments w.db (batch.map Document.bulkBody) true).request

/-- The results of a batch that have come of its call. There are none if it failed. -/
def Worker.results (w : Worker) (batch : List Document)
    (answer : Except TransportError Response) : List BulkResult :=
  ((Operation.bulkDocuments w.db (batch.map Document.bulkBody) true).outcome answer).toOption.getD
    []

/-- A document apart from its revision. -/
def Document.unrevised (d : Document) : Document :=
  { d with rev := none }

/-- Batches that hold some documents in their order, whatever their revisions are. None of the
batches is empty, and all are full but for the last one. -/
structure Batched (size : Nat) (documents : List Document) (batches : List (List Document)) :
    Prop where
  documents : batches.flatten.map Document.unrevised = documents.map Document.unrevised
  nonempty : ∀ batch ∈ batches, batch ≠ []
  length_le : ∀ batch ∈ batches, batch.length ≤ size
  full : ∀ batch ∈ batches.dropLast, batch.length = size

/-- Renderings that draw from a source one behind the other, and the source that is left. -/
def Drawn (c : Config) : Source → List Rendering → Source → Prop
  | s, [], t => s.Reaches t
  | s, r :: renderings, t => s.Reaches r.source ∧ Drawn c (r.behind c) renderings t

/-- The documents that have come of some renderings. -/
def Rendering.documents (c : Config) (renderings : List Rendering) : List Document :=
  renderings.filterMap fun r => (r.made c).toOption

/-- A pass: the renderings of the counters, and the batches that were submitted. -/
structure Pass where
  renderings : List Rendering
  batches : List (List Document)

/-- A pass that submits each document it has rendered once. -/
structure Pass.Complete (w : Worker) (pass : Pass) : Prop where
  counters : pass.renderings.map Rendering.counter = w.partition.counters
  batched : Batched w.config.bulkBatch (Rendering.documents w.config pass.renderings) pass.batches

/-- The documents that have been counted, be it as written or as failed. -/
def Stats.settled (s : Stats) : Nat :=
  s.documentWrites + s.documentFailures

/-! ### Batches -/

namespace Batched

variable {size : Nat} {documents : List Document} {batches : List (List Document)}
  {batch : List Document}

lemma nil (size : Nat) : Batched size [] [] := by
  constructor <;> simp

/-- One more batch goes behind batches that are all full. -/
lemma concat (h : Batched size documents batches) (hfull : ∀ b ∈ batches, b.length = size)
    (hbatch : batch ≠ []) (hlength : batch.length ≤ size) :
    Batched size (documents ++ batch) (batches ++ [batch]) where
  documents := by simp [h.documents]
  nonempty b hb := by
    rcases List.mem_append.1 hb with hb | hb
    · exact h.nonempty b hb
    · rwa [List.mem_singleton.1 hb]
  length_le b hb := by
    rcases List.mem_append.1 hb with hb | hb
    · exact h.length_le b hb
    · rwa [List.mem_singleton.1 hb]
  full b hb := by
    rw [List.dropLast_concat] at hb
    exact hfull b hb

/-- The revisions of documents do not matter for how they are batched. -/
lemma congr {documents' : List Document} (h : Batched size documents batches)
    (heq : documents.map Document.unrevised = documents'.map Document.unrevised) :
    Batched size documents' batches :=
  { h with documents := h.documents.trans heq }

end Batched

/-! ### Counting -/

namespace Progress

lemma settled_failDocuments (p : Progress) (n : Nat) :
    (p.failDocuments n).stats.settled = p.stats.settled + n :=
  (Nat.add_assoc ..).symm

end Progress

/-! ### Drawing -/

lemma Drawn.append {c : Config} {s t u : Source} {renderings renderings' : List Rendering}
    (h : Drawn c s renderings t) (h' : Drawn c t renderings' u) :
    Drawn c s (renderings ++ renderings') u := by
  induction renderings generalizing s with
  | nil =>
    cases renderings' with
    | nil => exact h.trans h'
    | cons r rest => exact ⟨h.trans h'.1, h'.2⟩
  | cons r rest ih => exact ⟨h.1, ih h.2⟩

/-- More may be drawn behind the renderings. -/
lemma Drawn.further {c : Config} {s t u : Source} {renderings : List Rendering}
    (h : Drawn c s renderings t) (hreaches : t.Reaches u) : Drawn c s renderings u := by
  rw [← List.append_nil renderings]
  exact h.append hreaches

/-- One more rendering draws from the source that the others leave. -/
lemma Drawn.concat {c : Config} {s t : Source} {renderings : List Rendering} {r : Rendering}
    (h : Drawn c s renderings t) (hr : r.source = t) :
    Drawn c s (renderings ++ [r]) (r.behind c) :=
  h.append ⟨hr ▸ .refl _, .refl _⟩

lemma Conflict.reaches_forge (tracker : Tracker) (documents : List Document) (s : Source) :
    s.Reaches (Conflict.forge tracker documents s).2 := by
  induction documents generalizing s with
  | nil => exact .refl s
  | cons d ds ih =>
    unfold forge
    split
    · exact ih s
    · exact (reaches_uuid s).trans (ih _)

/-! ### Passes under way -/

/-- What a pass over some counters has come to, with documents that wait and counters that are left:
all batches are full so far, unless the last one has been submitted. -/
structure Pass.Reached (w : Worker) (counters : List Nat) (calls : List Call) (p : Progress)
    (pass : Pass) (waiting : List Document) (left : List Nat) (calls' : List Call)
    (p' : Progress) : Prop where
  counters : counters = pass.renderings.map Rendering.counter ++ left
  batched : Batched w.config.bulkBatch pass.batches.flatten pass.batches
  full : (∀ batch ∈ pass.batches, batch.length = w.config.bulkBatch) ∨ waiting = [] ∧ left = []
  documents : (pass.batches.flatten ++ waiting).map Document.unrevised =
    (Rendering.documents w.config pass.renderings).map Document.unrevised
  edits : edits calls' = edits calls ++ pass.batches.map w.batchRequest
  drawn : Drawn w.config p.source pass.renderings p'.source
  settled : p'.stats.settled + waiting.length = p.stats.settled + pass.renderings.length

namespace Pass.Reached

variable {w : Worker} {counters left : List Nat} {calls calls' calls'' : List Call}
  {p p' p'' : Progress} {pass : Pass} {waiting : List Document} {r : Rendering}

lemma start (w : Worker) (counters : List Nat) (calls : List Call) (p : Progress) :
    Reached w counters calls p ⟨[], []⟩ [] counters calls p where
  counters := rfl
  batched := .nil _
  full := .inl fun _ h => absurd h List.not_mem_nil
  documents := rfl
  edits := (List.append_nil _).symm
  drawn := .refl _
  settled := rfl

/-- Where counters are left, all batches are full. -/
lemma full_of_left (h : Reached w counters calls p pass waiting (r.counter :: left) calls' p') :
    ∀ batch ∈ pass.batches, batch.length = w.config.bulkBatch :=
  h.full.resolve_right fun hend => List.cons_ne_nil _ _ hend.2

/-- A counter that cannot be rendered is counted, and no document waits for it. -/
lemma skip (h : Reached w counters calls p pass waiting (r.counter :: left) calls' p')
    (hr : r.source = p'.source) {e : Template.Error} (he : r.made w.config = .error e) :
    Reached w counters calls p { pass with renderings := pass.renderings ++ [r] } waiting left
      calls' ({ p' with source := r.behind w.config }.failDocuments 1) where
  counters := by rw [h.counters, List.map_append, List.append_assoc]; rfl
  batched := h.batched
  full := .inl h.full_of_left
  documents := by
    have hnone : Rendering.documents w.config [r] = [] := by
      simp [Rendering.documents, he, Except.toOption]
    rw [h.documents, Rendering.documents, Rendering.documents, List.filterMap_append]
    rw [Rendering.documents] at hnone
    rw [hnone, List.append_nil]
  edits := h.edits
  drawn := h.drawn.concat hr
  settled := by
    have := h.settled
    rw [Progress.settled_failDocuments, List.length_append, List.length_singleton]
    show p'.stats.settled + 1 + waiting.length = _
    omega

/-- A document that has been rendered waits, with whatever revision. -/
lemma add (h : Reached w counters calls p pass waiting (r.counter :: left) calls' p')
    (hr : r.source = p'.source) {d : Document} (hd : r.made w.config = .ok d)
    (rev : Option String) :
    Reached w counters calls p { pass with renderings := pass.renderings ++ [r] }
      (waiting ++ [{ d with rev }]) left calls' { p' with source := r.behind w.config } where
  counters := by rw [h.counters, List.map_append, List.append_assoc]; rfl
  batched := h.batched
  full := .inl h.full_of_left
  documents := by
    have hone : Rendering.documents w.config (pass.renderings ++ [r]) =
        Rendering.documents w.config pass.renderings ++ [d] := by
      rw [Rendering.documents, List.filterMap_append]
      simp [hd, Except.toOption, Rendering.documents]
    rw [hone, ← List.append_assoc, List.map_append, h.documents, List.map_append]
    rfl
  edits := h.edits
  drawn := h.drawn.concat hr
  settled := by
    have := h.settled
    rw [List.length_append, List.length_append, List.length_singleton, List.length_singleton]
    show p'.stats.settled + (waiting.length + 1) = _
    omega

/-- A batch is submitted that is full, or the last one. -/
lemma submit (h : Reached w counters calls p pass waiting left calls' p') (hwaiting : waiting ≠ [])
    (hlength : waiting.length ≤ w.config.bulkBatch)
    (hfull : waiting.length = w.config.bulkBatch ∨ left = [])
    (hedits : CouchLoad.edits calls'' = CouchLoad.edits calls' ++ [w.batchRequest waiting])
    (hreaches : p'.source.Reaches p''.source)
    (hsettled : p''.stats.settled = p'.stats.settled + waiting.length) :
    Reached w counters calls p { pass with batches := pass.batches ++ [waiting] } [] left calls''
      p'' where
  counters := h.counters
  batched := by
    have hbefore := h.full.resolve_right fun hend => hwaiting hend.1
    simpa using h.batched.concat hbefore hwaiting hlength
  full := by
    refine hfull.imp (fun hexact batch hbatch => ?_) fun hleft => ⟨rfl, hleft⟩
    rcases List.mem_append.1 hbatch with hbatch | hbatch
    · exact h.full.resolve_right (fun hend => hwaiting hend.1) batch hbatch
    · rw [List.mem_singleton.1 hbatch, hexact]
  documents := by simpa using h.documents
  edits := by simp [hedits, h.edits]
  drawn := h.drawn.further hreaches
  settled := hsettled.trans h.settled

/-- In the end all counters have been rendered, and all documents submitted. -/
lemma finish (h : Reached w counters calls p pass [] [] calls' p') :
    pass.renderings.map Rendering.counter = counters ∧
      Batched w.config.bulkBatch (Rendering.documents w.config pass.renderings) pass.batches ∧
      p'.stats.settled = p.stats.settled + counters.length := by
  have hcounters := h.counters
  have hdocuments := h.documents
  rw [List.append_nil] at hcounters hdocuments
  refine ⟨hcounters.symm, h.batched.congr hdocuments, ?_⟩
  rw [hcounters, List.length_map]
  exact h.settled

end Pass.Reached

/-! ### Calls -/

section Ensures

open Session

variable {w : Worker} {calls : List Call} {link : Link Progress}

/-- A batch is submitted with one call, and the results that come of it are recorded. -/
lemma ensures_flush_results (pass : Nat) (batch : List Document) :
    (w.flush pass batch).Ensures (fun _ calls' link' =>
      ∃ answer time, calls' = calls ++ [⟨w.batchRequest batch, answer⟩] ∧
        link'.owner = (link.owner.launch.land.sample .document time).recordResults batch
          (w.results batch answer)) calls link :=
  ensures_logic.holds_flush trivial <| ensures_perform fun answer _ =>
    ⟨trivial, fun time => ⟨trivial, answer, time, rfl, rfl⟩⟩

/-- Every pass of conflicts is one call and one time. Conflicts are written without new edits. -/
lemma ensures_addConflicts (batch : List Document) :
    (w.addConflicts batch).Ensures (fun _ calls' link' => ∃ more o s,
      calls' = calls ++ more ∧
        (∀ call ∈ more, ∃ bodies,
          call.request = (Operation.bulkDocuments w.db bodies false).request) ∧
        o.times.size = more.length ∧ link.owner.source.Reaches s ∧
        link'.owner = link.owner.recordConflicts o s) calls link := by
  apply ensures_logic.holds_addConflicts
  refine ensures_logic.holds_injectPasses (fun _ o s calls' link' => ∃ more,
    calls' = calls ++ more ∧
      (∀ call ∈ more, ∃ bodies,
        call.request = (Operation.bulkDocuments w.db bodies false).request) ∧
      o.times.size = more.length ∧ link.owner.source.Reaches s ∧ link'.owner = link.owner)
    ?none ?pass ?finish _ ⟨[], by simp, by simp, rfl, .refl _, rfl⟩
  case none =>
    rintro pass passes o s calls' link' ⟨more, hcalls, hmore, htimes, hreaches, howner⟩ -
    rw [howner]
    exact ⟨more, o, _, hcalls, hmore, htimes, hreaches.trans (Conflict.reaches_forge _ _ s), rfl⟩
  case pass =>
    rintro pass passes o s _ link' ⟨more, rfl, hmore, htimes, hreaches, howner⟩
    refine fun _ => ⟨trivial, ensures_perform fun answer n => ⟨trivial, fun time => ?_⟩⟩
    set call : Call := ⟨(Operation.bulkDocuments w.db
      (Conflict.forge link.owner.tracker batch s).1 false).request, answer⟩
    have hmore' : ∀ call' ∈ more ++ [call], ∃ bodies,
        call'.request = (Operation.bulkDocuments w.db bodies false).request := by
      intro call' hcall'
      rcases List.mem_append.1 hcall' with hcall' | hcall'
      · exact hmore call' hcall'
      · rw [List.mem_singleton.1 hcall']
        exact ⟨_, rfl⟩
    have htimes' : (o.times.push time).size = (more ++ [call]).length := by
      rw [Array.size_push, htimes, List.length_append, List.length_singleton]
    -- one more call and one more time, whatever came of it
    split
    all_goals exact ⟨more ++ [call], List.append_assoc .., hmore', htimes',
      hreaches.trans (Conflict.reaches_forge _ _ s), howner⟩
  case finish =>
    rintro o s calls' link' ⟨more, hcalls, hmore, htimes, hreaches, howner⟩
    rw [howner]
    exact ⟨more, o, s, hcalls, hmore, htimes, hreaches, rfl⟩

end Ensures

end CouchLoad
