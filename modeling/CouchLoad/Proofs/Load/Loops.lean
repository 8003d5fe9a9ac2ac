import CouchLoad.Load.Worker
import CouchLoad.Proofs.Load.Rendering
import CouchLoad.Proofs.Program.Logic

/-!
# Rules for the work of a worker

One rule for each loop of a worker, in any logic of sessions. A rule takes an invariant that speaks
of what the loop still has to do. What becomes of a request is not part of it: there each logic has
rules of its own, and it is enough to show that every way on from there keeps the invariant.
-/

namespace CouchLoad

/-- Change what the owner of a link keeps. -/
def Link.with {σ : Type} (link : Link σ) (owner : σ) : Link σ :=
  { link with owner }

/-- A link after some more reconnects. -/
def Link.relinked {σ : Type} (link : Link σ) (n : Nat) : Link σ :=
  { link with reconnects := n }

/-- A configuration that writes batches does not write empty ones. -/
lemma Config.bulkBatch_pos {c : Config} (h : c.usesBulk = true) : 0 < c.bulkBatch :=
  Nat.lt_trans Nat.zero_lt_one (of_decide_eq_true h)

/-- A batch without results has failed as a whole. -/
lemma Progress.recordResults_nil (p : Progress) (batch : List Document) :
    p.recordResults batch [] = p.failDocuments batch.length := by
  cases batch <;> rfl

namespace Session.Logic

section Conflicts

open Conflict Entropy

variable {σ ρ : Type}
  {Holds : {α : Type} → Session σ α → (α → ρ → Link σ → Prop) → ρ → Link σ → Prop}
  {Shows : ρ → Link σ → Prop} (L : Logic Holds Shows)
include L

/-- The loop over the passes that write conflicts. The invariant speaks of the passes that are left,
of the outcome so far and of the source. -/
lemma holds_injectPasses {db : String} {documents : List Document} {tracker : Tracker}
    {post : Outcome × Source → ρ → Link σ → Prop}
    (I : List Nat → Outcome → Source → ρ → Link σ → Prop)
    (hnone : ∀ pass passes o s x link, I (pass :: passes) o s x link →
      (forge tracker documents s).1 = [] → post (o, (forge tracker documents s).2) x link)
    (hpass : ∀ pass passes o s x link, I (pass :: passes) o s x link →
      let (bodies, s) := forge tracker documents s
      bodies ≠ [] → Shows x link ∧
        Holds (perform (.bulkDocuments db bodies false)) (fun result x link => Shows x link ∧
          ∀ time, match result with
            | .ok results =>
              I passes (o.accept bodies.length (failures db pass results).length time) s x link
            | .error _ => I passes (o.reject bodies.length time) s x link) x link)
    (hend : ∀ o s x link, I [] o s x link → post (o, s) x link)
    (passes : List Nat) {o : Outcome} {s : Source} {x : ρ} {link : Link σ}
    (h : I passes o s x link) :
    Holds (injectPasses db documents tracker o s passes) post x link := by
  induction passes generalizing o s x link with
  | nil => exact L.holds_pure (hend _ _ _ _ h)
  | cons pass passes ih =>
    have hempty := hnone pass passes o s x link h
    have hsend := hpass pass passes o s x link h
    unfold injectPasses
    generalize forge tracker documents s = forged at hempty hsend ⊢
    obtain ⟨bodies, s'⟩ := forged
    simp only at hempty hsend ⊢
    split
    · rename_i hnil
      exact L.holds_pure (hempty (List.isEmpty_iff.1 hnil))
    · rename_i hsome
      obtain ⟨hshows, hsend⟩ := hsend fun hnil => hsome (List.isEmpty_iff.2 hnil)
      refine L.holds_bind (L.holds_timed hshows (L.holds_mono hsend ?_))
      rintro result x link ⟨hshows, hnext⟩
      refine ⟨hshows, fun time => ?_⟩
      cases result with
      | ok results =>
        refine L.holds_bind (L.holds_noteAll hshows (L.holds_bind ?_) _ _)
        exact L.holds_note hshows (ih (hnext time)) _ _ _
      | error e => exact L.holds_bind (L.holds_note hshows (ih (hnext time)) _ _ _)

end Conflicts

variable {ρ : Type}
  {Holds : {α : Type} → Work α → (α → ρ → Link Progress → Prop) → ρ → Link Progress → Prop}
  {Shows : ρ → Link Progress → Prop} (L : Logic Holds Shows) {w : Worker} {x : ρ}
  {link : Link Progress}
include L

lemma holds_noteWrite {post : Unit → ρ → Link Progress → Prop} (hshows : Shows x link)
    (h : post () x link) (what : String) (time : Nat) :
    Holds (w.noteWrite what time) post x link :=
  L.holds_note hshows h _ _ _

/-- A document is generated, or a failure is counted for its counter. -/
lemma holds_generate {counter : Nat} {post : Option Document → ρ → Link Progress → Prop}
    (hshows : Shows x link)
    (hmade : ∀ (r : Rendering) d, r.counter = counter → r.source = link.owner.source →
      r.made w.config = .ok d →
        post (some d) x (link.with { link.owner with source := r.behind w.config }))
    (hfailed : ∀ (r : Rendering) e, r.counter = counter → r.source = link.owner.source →
      r.made w.config = .error e →
        let after := link.with ({ link.owner with source := r.behind w.config }.failDocuments 1)
        Shows x after ∧ post none x after) :
    Holds (w.generate counter) post x link := by
  refine L.holds_bind (L.holds_owner (L.holds_bind ?_))
  refine L.holds_embed hshows (Template.generate_readsFor _ _ _ _) ?_
  rintro ⟨made, source⟩ ⟨files, hout⟩
  obtain ⟨hmade', rfl⟩ := Prod.mk.inj hout
  let r : Rendering := ⟨counter, link.owner.source, files⟩
  cases made with
  | ok d =>
    refine L.holds_bind (L.holds_update (L.holds_pure ?_))
    exact hmade r d rfl rfl hmade'.symm
  | error e =>
    obtain ⟨hshows', hpost⟩ := hfailed r e rfl rfl hmade'.symm
    refine L.holds_bind (L.holds_update (L.holds_bind (L.holds_note hshows' ?_ _ _ _)))
    exact L.holds_pure hpost

/-! ### Documents one by one

Documents are written one by one without anybody looking at the worker meanwhile. -/

section OneByOne

variable (hshows : ∀ x link, Shows x link)
include hshows

/-- The loop over the revisions of a document. A write that fails ends it. -/
lemma holds_putRevisions {d : Document} {post : Option Revision → ρ → Link Progress → Prop}
    (I : List Nat → Option Revision → ρ → Link Progress → Prop)
    (hput : ∀ pass passes current x link, I (pass :: passes) current x link →
      Holds (perform (.putDocument w.db d.id current
        { d with rev := current.map Revision.display }.body)) (fun result x link => ∀ time,
          match result with
          | .ok rev => I passes (some rev) x (link.with (link.owner.writeDocument time))
          | .error _ => post none x (link.with (link.owner.failDocuments 1))) x link)
    (hend : ∀ current x link, I [] current x link → post current x link)
    (passes : List Nat) {current : Option Revision} (h : I passes current x link) :
    Holds (w.putRevisions d current passes) post x link := by
  induction passes generalizing current x link with
  | nil => exact L.holds_pure (hend _ _ _ h)
  | cons pass passes ih =>
    refine L.holds_bind (L.holds_timed (hshows _ _) (L.holds_mono (hput _ _ _ _ _ h) ?_))
    refine fun result x link hnext => ⟨hshows _ _, fun time => ?_⟩
    cases result with
    | ok rev =>
      refine L.holds_bind (L.holds_update (L.holds_bind (L.holds_noteWrite (hshows _ _) ?_ _ _)))
      exact ih (hnext time)
    | error e =>
      refine L.holds_bind (L.holds_update (L.holds_bind (L.holds_note (hshows _ _) ?_ _ _ _)))
      exact L.holds_pure (hnext time)

/-- The loop over the attachments of a document. It goes on after one that fails. -/
lemma holds_uploadAttachments {id : String} {post : Unit → ρ → Link Progress → Prop}
    (I : List Attachment → Revision → ρ → Link Progress → Prop)
    (hupload : ∀ a rest rev x link, I (a :: rest) rev x link →
      Holds (perform (.putAttachment w.db id a.name rev a.contentType
        (Worker.payloadBody a.payload))) (fun result x link => ∀ time,
          match result with
          | .ok next => I rest next x (link.with (link.owner.uploadAttachment time))
          | .error _ => I rest rev x (link.with link.owner.failAttachment)) x link)
    (hend : ∀ rev x link, I [] rev x link → post () x link)
    (attachments : List Attachment) {rev : Revision} (h : I attachments rev x link) :
    Holds (w.uploadAttachments id rev attachments) post x link := by
  induction attachments generalizing rev x link with
  | nil => exact L.holds_pure (hend _ _ _ h)
  | cons a rest ih =>
    refine L.holds_bind (L.holds_timed (hshows _ _) (L.holds_mono (hupload _ _ _ _ _ h) ?_))
    refine fun result x link hnext => ⟨hshows _ _, fun time => ?_⟩
    cases result with
    | ok next =>
      refine L.holds_bind (L.holds_update (L.holds_bind (L.holds_noteWrite (hshows _ _) ?_ _ _)))
      exact L.holds_bind (L.holds_note (hshows _ _) (ih (hnext time)) _ _ _)
    | error e =>
      refine L.holds_bind (L.holds_update (L.holds_bind (L.holds_note (hshows _ _) ?_ _ _ _)))
      exact ih (hnext time)

/-- The loop over the counters of documents that are written one by one. -/
lemma holds_writeEach (I : List Nat → ρ → Link Progress → Prop)
    (hfailed : ∀ (r : Rendering) e counters x link, I (r.counter :: counters) x link →
      r.source = link.owner.source → r.made w.config = .error e →
        I counters x (link.with ({ link.owner with source := r.behind w.config }.failDocuments 1)))
    (hmade : ∀ (r : Rendering) d counters x link, I (r.counter :: counters) x link →
      r.source = link.owner.source → r.made w.config = .ok d →
        Holds (w.writeDocument d) (fun _ x link => I counters x link) x
          (link.with { link.owner with source := r.behind w.config }))
    (counters : List Nat) (h : I counters x link) :
    Holds (w.writeEach counters) (fun _ x link => I [] x link) x link := by
  induction counters generalizing x link with
  | nil => exact L.holds_pure h
  | cons counter counters ih =>
    refine L.holds_bind (L.holds_generate (hshows _ _) ?_ ?_)
    · rintro r d rfl hsource hd
      exact L.holds_bind (L.holds_mono (hmade r d _ _ _ h hsource hd) fun _ _ _ h => ih h)
    · rintro r e rfl hsource he
      exact ⟨hshows _ _, ih (hfailed r e _ _ _ h hsource he)⟩

end OneByOne

/-! ### Documents in batches -/

/-- Writing a batch. If there are no results, the batch has failed as a whole. -/
lemma holds_flush {pass : Nat} {batch : List Document} {post : Unit → ρ → Link Progress → Prop}
    (hflying : Shows x (link.with link.owner.launch))
    (hsend : Holds (perform (.bulkDocuments w.db (batch.map Document.bulkBody) true))
      (fun result x link => Shows x link ∧ ∀ time,
        let after := link.with ((link.owner.land.sample .document time).recordResults batch
          (result.toOption.getD []))
        Shows x after ∧ post () x after) x (link.with link.owner.launch)) :
    Holds (w.flush pass batch) post x link := by
  refine L.holds_bind (L.holds_update (L.holds_bind ?_))
  refine L.holds_timed hflying (L.holds_mono hsend ?_)
  rintro result x link ⟨hshows, hnext⟩
  refine ⟨hshows, fun time => L.holds_bind (L.holds_update ?_)⟩
  obtain ⟨hshows, hpost⟩ := hnext time
  cases result with
  | ok results =>
    refine L.holds_bind (L.holds_update (L.holds_bind (L.holds_noteAll hshows ?_ _ _)))
    exact L.holds_noteWrite hshows hpost _ _
  | error e =>
    rw [Except.toOption, Option.getD_none, Progress.recordResults_nil] at hshows hpost
    exact L.holds_bind (L.holds_update (L.holds_note hshows hpost _ _ _))

/-- Conflicts are written with what the worker knows, and their outcome is recorded. -/
lemma holds_addConflicts {batch : List Document} {post : Unit → ρ → Link Progress → Prop}
    (h : Holds (Conflict.injectPasses w.db batch link.owner.tracker {} link.owner.source
      (List.range' 1 w.config.conflicts)) (fun out x link =>
        post () x (link.with (link.owner.recordConflicts out.1 out.2))) x link) :
    Holds (w.addConflicts batch) post x link := by
  refine L.holds_bind (L.holds_owner (L.holds_bind (L.holds_mono h ?_)))
  exact fun out x link hpost => L.holds_update hpost

/-- The loop over the counters of documents that are written in batches. The invariant speaks of
the batch that waits and of the counters that are left. A batch that is submitted is full, or it is
the last one. -/
lemma holds_writePass {pass : Nat} (I : List Document → List Nat → ρ → Link Progress → Prop)
    (hshows : ∀ batch counters x link, I batch counters x link → Shows x link)
    (hfailed : ∀ (r : Rendering) e batch counters x link, I batch (r.counter :: counters) x link →
      r.source = link.owner.source → r.made w.config = .error e →
        I batch counters x
          (link.with ({ link.owner with source := r.behind w.config }.failDocuments 1)))
    (hmade : ∀ (r : Rendering) d batch counters x link, I batch (r.counter :: counters) x link →
      r.source = link.owner.source → r.made w.config = .ok d →
        I (batch ++ [{ d with rev := (link.owner.tracker.get? d.id).map Revision.display }])
          counters x (link.with { link.owner with source := r.behind w.config }))
    (hsubmit : ∀ batch counters x link, batch ≠ [] → batch.length ≤ w.config.bulkBatch →
      batch.length = w.config.bulkBatch ∨ counters = [] → I batch counters x link →
        Holds (w.submit pass batch) (fun _ x link => I [] counters x link) x link)
    (counters : List Nat) {batch : List Document} (hwaiting : batch.length < w.config.bulkBatch)
    (h : I batch counters x link) :
    Holds (w.writePass pass batch counters) (fun _ x link => I [] [] x link) x link := by
  induction counters generalizing batch x link with
  | nil =>
    unfold Worker.writePass
    split
    · rename_i hempty
      rw [List.isEmpty_iff.1 hempty] at h
      exact L.holds_pure h
    · rename_i hempty
      exact hsubmit batch [] x link (fun heq => hempty (List.isEmpty_iff.2 heq)) hwaiting.le
        (Or.inr rfl) h
  | cons counter counters ih =>
    refine L.holds_bind (L.holds_generate (hshows _ _ _ _ h) ?_ ?_)
    · rintro r d rfl hsource hd
      have hI := hmade r d _ _ _ _ h hsource hd
      have hlength : ∀ e : Document, (batch ++ [e]).length = batch.length + 1 :=
        fun e => List.length_append
      refine L.holds_bind (L.holds_owner ?_)
      simp only
      split
      · rename_i hfull
        rw [hlength] at hfull
        have hexact : batch.length + 1 = w.config.bulkBatch := by omega
        refine L.holds_bind (L.holds_mono (hsubmit _ counters _ _ (by simp)
          ((hlength _).trans hexact).le (Or.inl ((hlength _).trans hexact)) hI) ?_)
        intro _ x link h
        exact ih (show ([] : List Document).length < _ by rw [← hexact]; exact Nat.succ_pos _) h
      · rename_i hmore
        exact ih (by omega) hI
    · rintro r e rfl hsource he
      have hI := hfailed r e _ _ _ _ h hsource he
      exact ⟨hshows _ _ _ _ hI, ih hwaiting hI⟩

/-- The loop over the passes. -/
lemma holds_writePasses (I : List Nat → ρ → Link Progress → Prop) (counters : List Nat)
    (hpass : ∀ pass passes x link, I (pass :: passes) x link →
      Holds (w.writePass pass [] counters)
        (fun _ x link => I passes x (link.with link.owner.finishPass)) x link)
    (passes : List Nat) (h : I passes x link) :
    Holds (w.writePasses counters passes) (fun _ x link => I [] x link) x link := by
  induction passes generalizing x link with
  | nil => exact L.holds_pure h
  | cons pass passes ih =>
    refine L.holds_bind (L.holds_mono (hpass pass passes x link h) fun _ x link h => ?_)
    exact L.holds_bind (L.holds_update (ih h))

/-! ### The whole work -/

/-- A worker writes its documents in batches or one by one. -/
lemma holds_work {post : Unit → ρ → Link Progress → Prop} (hshows : Shows x link)
    (hbatches : w.config.usesBulk = true → Holds (w.writePasses w.partition.counters
      (List.range' 1 w.config.revisions)) post x link)
    (heach : w.config.usesBulk = false → Holds (w.writeEach w.partition.counters) post x link) :
    Holds w.work post x link := by
  refine L.holds_bind (L.holds_note hshows ?_ _ _ _)
  split
  · rename_i hbulk
    exact hbatches hbulk
  · rename_i hbulk
    exact heach (Bool.eq_false_iff.2 hbulk)

end Session.Logic

end CouchLoad
