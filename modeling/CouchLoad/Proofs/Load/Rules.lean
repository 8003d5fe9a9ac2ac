import CouchLoad.Proofs.Entropy.Draws
import CouchLoad.Proofs.Load.Loops
import CouchLoad.Proofs.Load.Team

/-!
# Rules for the work of a worker in a team

What becomes of each request of a worker is known here, so for every loop that sends requests there
is a rule in terms of it. An invariant of such a rule speaks of what the loop still has to do, and
of the share that the worker has in its database.
-/

namespace CouchLoad

open Session

section Rules

variable {L : Site} {look : Share → Link Progress → Prop} {place : Nat} {g : Share}
  {link : Link Progress} {w : Worker}

namespace Worker

/-! ### Documents one by one

Documents are written one by one without anybody looking at the worker meanwhile. -/

/-- The loop over the revisions of a document. Every pass writes a revision on top of the one
before, or it is refused, and that ends the loop. -/
lemma safe_putRevisions {d : Document} {post : Option Revision → Share → Link Progress → Prop}
    (I : List Nat → Option Revision → Share → Link Progress → Prop) (hdb : w.db = L.db)
    (hd : d.WellFormed) (hplace : place < L.members) (hterritory : L.territory place d.id)
    (hheld : ∀ passes current g link, I passes current g link →
      current = none ∨ (g.documents d.id).isSome)
    (hrelinked : ∀ passes current g link n, (n = link.reconnects ∨ ¬L.premise.Steady) →
      I passes current g link → I passes current g (link.relinked n))
    (haccept : ∀ pass passes g link stored time, I (pass :: passes) (g.current d.id) g link →
      stored.Succeeds (g.documents d.id) → stored.body = d.fields →
      I passes (some stored.rev) (g.write d.id stored)
        (link.with (link.owner.writeDocument time)))
    (hrefuse : ∀ pass passes current g link, I (pass :: passes) current g link →
      (¬L.premise.Steady ∨ d.id = "_security" ∨ g.current d.id ≠ current ∨
        L.Contested place d.id) → post none g (link.with (link.owner.failDocuments 1)))
    (hend : ∀ current g link, I [] current g link → post current g link)
    (passes : List Nat) {current : Option Revision} (h : I passes current g link) :
    Safe L.discipline (fun _ _ => True) place (w.putRevisions d current passes) post g link := by
  refine (safe_logic L.calm).holds_putRevisions (fun _ _ => trivial) I ?_ hend passes h
  intro pass passes current g link h
  have hsend := L.sends_putDocument (g := g) hd hplace hterritory (hheld _ _ _ _ h) rfl
  rw [← hdb] at hsend
  refine safe_perform L.calm hsend (fun _ => trivial) ?_ ?_
  · intro e n hsteady time
    exact hrefuse pass passes current g _ (hrelinked _ _ _ _ n (Or.inr hsteady) h) (Or.inl hsteady)
  · intro response g' n hn hputs time
    have hI := hrelinked _ _ _ _ n hn h
    generalize (Operation.putDocument w.db d.id current _).read response = out at hputs
    cases hputs with
    | accept stored hcurrent hsucceeds hbody =>
      rw [← hcurrent] at hI
      exact haccept pass passes g _ stored time hI hsucceeds hbody
    | refuse e hreason => exact hrefuse pass passes current g _ hI (Or.inr hreason)

/-- The loop over the attachments of a document that is there. -/
lemma safe_uploadAttachments {id : String} {post : Unit → Share → Link Progress → Prop}
    (I : List Attachment → Share → Link Progress → Prop) (hdb : w.db = L.db)
    (hrelinked : ∀ rest g link n, I rest g link → I rest g (link.relinked n))
    (haccept : ∀ a rest g link stored time, I (a :: rest) g link →
      stored.Succeeds (g.documents id) →
      I rest (g.write id stored) (link.with (link.owner.uploadAttachment time)))
    (hfail : ∀ a rest g link, I (a :: rest) g link →
      I rest g (link.with link.owner.failAttachment))
    (hend : ∀ g link, I [] g link → post () g link)
    (attachments : List Attachment) {rev : Revision} (hrev : g.current id = some rev)
    (h : I attachments g link) :
    Safe L.discipline (fun _ _ => True) place (w.uploadAttachments id rev attachments) post g
      link := by
  refine (safe_logic L.calm).holds_uploadAttachments (fun _ _ => trivial)
    (fun rest rev g link => g.current id = some rev ∧ I rest g link) ?_
    (fun _ g link h => hend g link h.2) attachments ⟨hrev, h⟩
  rintro a rest rev g link ⟨hrev, h⟩
  have hsend := L.sends_putAttachment place hrev a.name a.contentType (payloadBody a.payload)
  rw [← hdb] at hsend
  refine safe_perform L.calm hsend (fun _ => trivial) ?_ ?_
  · intro e n _ time
    exact ⟨hrev, hfail a rest g _ (hrelinked _ _ _ n h)⟩
  · intro response g' n _ huploads time
    have hI := hrelinked _ _ _ n h
    generalize (Operation.putAttachment w.db id a.name rev a.contentType _).read response = out
      at huploads
    cases huploads with
    | accept stored hsucceeds =>
      exact ⟨g.current_write_self id stored, haccept a rest g _ stored time hI hsucceeds⟩
    | fail e => exact ⟨hrev, hfail a rest g _ hI⟩

/-! ### Documents in batches -/

/-- Writing a batch. All of it is dropped, or each document is written or refused by itself. -/
lemma safe_flush {pass : Nat} {batch : List Document} {post : Unit → Share → Link Progress → Prop}
    (hdb : w.db = L.db) (hplace : place < L.members)
    (hflying : ∀ g link, link.owner.inFlight = true → look g link)
    (hbatch : ∀ d ∈ batch, g.Admits d ∧ L.territory place d.id)
    (hdrop : ∀ n time, ¬L.premise.Steady →
      let after := (link.relinked n).with
        ((link.owner.launch.land.sample .document time).failDocuments batch.length)
      look g after ∧ post () g after)
    (hwritten : ∀ results g' n time, (n = link.reconnects ∨ ¬L.premise.Steady) →
      g.Written (L.Contested place) batch (results.map BulkResult.revision?) g' →
      let after := (link.relinked n).with
        ((link.owner.launch.land.sample .document time).recordResults batch results)
      look g' after ∧ post () g' after) :
    Safe L.discipline look place (w.flush pass batch) post g link := by
  have hsend := L.sends_bulkDocuments hplace hbatch
  rw [← hdb] at hsend
  refine (safe_logic L.calm).holds_flush (hflying _ _ rfl)
    (safe_perform L.calm hsend (fun _ => hflying _ _ rfl) ?_ ?_)
  · intro e n hsteady
    refine ⟨hflying _ _ rfl, fun time => ?_⟩
    rw [Except.toOption, Option.getD_none, Progress.recordResults_nil]
    exact hdrop n time hsteady
  · rintro response g' n hn ⟨results, hread, hg'⟩
    rw [hread]
    exact ⟨hflying _ _ rfl, fun time => hwritten results g' n time hn hg'⟩

end Worker

/-! ### Conflicts -/

namespace Conflict

/-- The documents whose revision is known. -/
def known (tracker : Tracker) (documents : List Document) : List Document :=
  documents.filter fun d => (tracker.get? d.id).isSome

/-- The known documents with their known revisions. -/
def tracked (tracker : Tracker) (documents : List Document) : List (Document × Revision) :=
  documents.filterMap fun d => (tracker.get? d.id).map (d, ·)

lemma map_fst_tracked (tracker : Tracker) (documents : List Document) :
    (tracked tracker documents).map Prod.fst = known tracker documents := by
  induction documents with
  | nil => rfl
  | cons d ds ih =>
    cases h : tracker.get? d.id <;> simpa [tracked, known, h] using ih

lemma get?_of_mem_tracked {tracker : Tracker} {documents : List Document}
    {entry : Document × Revision} (h : entry ∈ tracked tracker documents) :
    tracker.get? entry.1.id = some entry.2 := by
  obtain ⟨d, -, hentry⟩ := List.mem_filterMap.1 h
  obtain ⟨rev, hrev, rfl⟩ := Option.map_eq_some_iff.1 hentry
  exact hrev

/-- The known documents with siblings of their known revisions. -/
def siblings (tracker : Tracker) (documents : List Document) (us : List Entropy.Uuid) :
    List (Document × Revision) :=
  ((tracked tracker documents).zip us).map fun pair =>
    (pair.1.1, pair.1.2.conflictingSibling pair.2)

/-- One identifier is drawn for each known document. -/
lemma forge_siblings (tracker : Tracker) (documents : List Document) (s : Entropy.Source) :
    let drawn := Entropy.Uuid.drawMany (known tracker documents).length s
    forge tracker documents s =
      (conflictBodies (siblings tracker documents drawn.1), drawn.2) := by
  induction documents generalizing s with
  | nil => rfl
  | cons d ds ih =>
    cases h : tracker.get? d.id with
    | none =>
      have hknown : known tracker (d :: ds) = known tracker ds := by simp [known, h]
      have htracked : tracked tracker (d :: ds) = tracked tracker ds := by simp [tracked, h]
      simp only [forge, h, hknown, siblings, htracked]
      exact ih s
    | some rev =>
      have hknown : known tracker (d :: ds) = d :: known tracker ds := by simp [known, h]
      have htracked : tracked tracker (d :: ds) = (d, rev) :: tracked tracker ds := by
        simp [tracked, h]
      simp only [forge, h, hknown, siblings, htracked, ih, List.length_cons,
        Entropy.Uuid.drawMany, List.zip_cons_cons, conflictBodies, List.map_cons]

lemma map_fst_siblings {tracker : Tracker} {documents : List Document} {us : List Entropy.Uuid}
    (h : us.length = (known tracker documents).length) :
    (siblings tracker documents us).map Prod.fst = known tracker documents := by
  have hlength : (tracked tracker documents).length ≤ us.length := by
    rw [h, ← map_fst_tracked, List.length_map]
  have hzip := List.map_fst_zip hlength
  rw [← map_fst_tracked, ← congrArg (List.map Prod.fst) hzip]
  simp [siblings]

lemma sibling_of_mem_siblings {tracker : Tracker} {documents : List Document}
    {us : List Entropy.Uuid} {entry : Document × Revision}
    (h : entry ∈ siblings tracker documents us) :
    ∃ rev, ∃ u ∈ us, tracker.get? entry.1.id = some rev ∧
      entry.2 = rev.conflictingSibling u := by
  obtain ⟨⟨known, u⟩, hpair, rfl⟩ := List.mem_map.1 h
  obtain ⟨hknown, hu⟩ := List.of_mem_zip hpair
  exact ⟨known.2, u, hu, get?_of_mem_tracked hknown, rfl⟩

/-- Every known document gets a sibling of its known revision. -/
lemma forge_eq (tracker : Tracker) (documents : List Document) (s : Entropy.Source) :
    ∃ entries s', forge tracker documents s = (conflictBodies entries, s') ∧
      entries.map Prod.fst = known tracker documents ∧
      ∀ entry ∈ entries, ∃ rev u,
        tracker.get? entry.1.id = some rev ∧ entry.2 = rev.conflictingSibling u := by
  refine ⟨_, _, forge_siblings tracker documents s,
    map_fst_siblings (Entropy.Uuid.length_drawMany _ s), ?_⟩
  intro entry hentry
  obtain ⟨rev, u, -, hrev, hsibling⟩ := sibling_of_mem_siblings hentry
  exact ⟨rev, u, hrev, hsibling⟩

/-- What is made up for known documents are conflicts that their holder may make. -/
lemma forges_of_known {tracker : Tracker} {documents : List Document} {g : Share}
    {entries : List (Document × Revision)} (hwell : ∀ d ∈ documents, d.WellFormed)
    (htracker : ∀ id rev, tracker.get? id = some rev → g.current id = some rev)
    (hentries : entries.map Prod.fst = known tracker documents)
    (hsiblings : ∀ entry ∈ entries, ∃ rev u,
      tracker.get? entry.1.id = some rev ∧ entry.2 = rev.conflictingSibling u) :
    ∀ entry ∈ entries, g.Forges entry := by
  intro entry hentry
  obtain ⟨rev, u, hrev, hsibling⟩ := hsiblings entry hentry
  have hmem : entry.1 ∈ known tracker documents := by
    rw [← hentries]
    exact List.mem_map_of_mem hentry
  exact ⟨hwell _ (List.mem_of_mem_filter hmem), rev, u, htracker _ _ hrev, hsibling⟩

/-- Conflicts leave the current revisions of a share as they are. -/
lemma current_of_conflicted {distinct : Prop} {g g' : Share}
    {entries : List (Document × Revision)} (h : g.Conflicted distinct entries g') :
    g'.current = g.current := by
  induction h with
  | nil g => rfl
  | cons stored held added sibling others ih => rw [ih, Share.current_conflict]

/-- The loop over the passes that write conflicts. The invariant speaks of the passes that are left
and of the outcome so far. -/
lemma safe_injectPasses {documents : List Document} {tracker : Tracker}
    (I : List Nat → Outcome → Share → Prop)
    (hlook : ∀ g' n, g'.current = g.current → look g' (link.relinked n))
    (hwell : ∀ d ∈ documents, d.WellFormed)
    (hknown : ∀ id rev, tracker.get? id = some rev → g.current id = some rev)
    (hnone : ∀ passes o g', known tracker documents = [] → I passes o g' → I [] o g')
    (hdrop : ∀ pass passes o g' time, ¬L.premise.Steady → I (pass :: passes) o g' →
      I passes (o.reject (known tracker documents).length time) g')
    (hadd : ∀ pass passes o g' g'' entries time, I (pass :: passes) o g' →
      entries.map Prod.fst = known tracker documents →
      g'.Conflicted L.premise.distinct entries g'' →
      I passes (o.accept (known tracker documents).length 0 time) g'')
    (passes : List Nat) {o : Outcome} {s : Entropy.Source} (h : I passes o g) :
    Safe L.discipline look place (injectPasses L.db documents tracker o s passes)
      (fun out g' after => I [] out.1 g' ∧ g'.current = g.current ∧
        ∃ n, (n = link.reconnects ∨ ¬L.premise.Steady) ∧ after = link.relinked n) g link := by
  refine (safe_logic L.calm).holds_injectPasses (fun passes o _ g' after => I passes o g' ∧
    g'.current = g.current ∧ ∃ n, (n = link.reconnects ∨ ¬L.premise.Steady) ∧
      after = link.relinked n) ?_ ?_ (fun _ _ _ _ h => h) passes
    ⟨h, rfl, link.reconnects, Or.inl rfl, rfl⟩
  · rintro pass passes o s g' after ⟨h, hcurrent, hafter⟩ hempty
    obtain ⟨entries, s', hforge, hentries, -⟩ := forge_eq tracker documents s
    have hnil : known tracker documents = [] := by
      rw [hforge] at hempty
      rw [← hentries, List.map_eq_nil_iff.1 hempty, List.map_nil]
    exact ⟨hnone _ _ _ hnil h, hcurrent, hafter⟩
  · rintro pass passes o s g' after ⟨h, hcurrent, n, hn, rfl⟩
    obtain ⟨entries, s', hforge, hentries, hsiblings⟩ := forge_eq tracker documents s
    have hforges : ∀ entry ∈ entries, g'.Forges entry := by
      apply forges_of_known hwell _ hentries hsiblings
      rw [hcurrent]
      exact hknown
    have hlength : (conflictBodies entries).length = (known tracker documents).length := by
      rw [← hentries, List.length_map, conflictBodies, List.length_map]
    rw [hforge]
    refine fun _ => ⟨hlook g' n hcurrent, safe_perform L.calm (L.sends_conflicts hforges)
      (fun n => hlook g' n hcurrent) ?_ ?_⟩
    · intro e n' hsteady
      refine ⟨hlook g' n' hcurrent, fun time => ⟨?_, hcurrent, n', Or.inr hsteady, rfl⟩⟩
      simp only [hlength]
      exact hdrop pass passes o g' time hsteady h
    · rintro response g'' n' hn' ⟨hread, hconflicted⟩
      have hcurrent' := (current_of_conflicted hconflicted).trans hcurrent
      rw [hread]
      refine ⟨hlook g'' n' hcurrent', fun time => ⟨?_, hcurrent', n', ?_, rfl⟩⟩
      · simp only [hlength]
        exact hadd pass passes o g' g'' entries time h hentries hconflicted
      · rcases hn' with rfl | hsteady
        · exact hn
        · exact Or.inr hsteady

end Conflict

end Rules

end CouchLoad
