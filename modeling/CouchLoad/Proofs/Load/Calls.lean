import CouchLoad.Proofs.Load.Chains
import CouchLoad.Proofs.Load.Loops

/-!
# What a worker calls

A worker that writes documents one by one makes a chain of calls for each counter, against any
server: whatever it answers and whatever fails on the way. What the worker counts is what came of
its calls.
-/

namespace CouchLoad

/-! ### Counts -/

/-- Counts that differ by some failed documents and by what came of some calls. -/
structure Stats.Gains (s : Stats) (failures : Nat) (puts uploads : List Call) (t : Stats) :
    Prop where
  documentWrites : t.documentWrites = s.documentWrites + puts.countP Call.succeeded
  documentFailures : t.documentFailures = s.documentFailures + failures
  attachmentWrites : t.attachmentWrites = s.attachmentWrites + uploads.countP Call.succeeded
  attachmentFailures : t.attachmentFailures =
    s.attachmentFailures + uploads.countP fun call => !call.succeeded

lemma Stats.Gains.refl (s : Stats) : s.Gains 0 [] [] s := ⟨rfl, rfl, rfl, rfl⟩

lemma Stats.Gains.trans {s t u : Stats} {failures failures' : Nat}
    {puts puts' uploads uploads' : List Call} (h : s.Gains failures puts uploads t)
    (h' : t.Gains failures' puts' uploads' u) :
    s.Gains (failures + failures') (puts ++ puts') (uploads ++ uploads') u where
  documentWrites := by rw [h'.documentWrites, h.documentWrites, List.countP_append, Nat.add_assoc]
  documentFailures := by rw [h'.documentFailures, h.documentFailures, Nat.add_assoc]
  attachmentWrites := by
    rw [h'.attachmentWrites, h.attachmentWrites, List.countP_append, Nat.add_assoc]
  attachmentFailures := by
    rw [h'.attachmentFailures, h.attachmentFailures, List.countP_append, Nat.add_assoc]

section Gains

variable (p : Progress) {call : Call}

lemma gains_writeDocument (h : call.succeeded = true) (time : Nat) :
    p.stats.Gains ([call].countP fun call => !call.succeeded) [call] []
      (p.writeDocument time).stats :=
  ⟨by rw [List.countP_singleton, if_pos h]; rfl, by rw [List.countP_singleton, h]; rfl, rfl, rfl⟩

lemma gains_failDocument (h : call.succeeded = false) :
    p.stats.Gains ([call].countP fun call => !call.succeeded) [call] []
      (p.failDocuments 1).stats :=
  ⟨by rw [List.countP_singleton, h]; rfl, by rw [List.countP_singleton, h]; rfl, rfl, rfl⟩

lemma gains_uploadAttachment (h : call.succeeded = true) (time : Nat) :
    p.stats.Gains 0 [] [call] (p.uploadAttachment time).stats :=
  ⟨rfl, rfl, by rw [List.countP_singleton, if_pos h]; rfl, by rw [List.countP_singleton, h]; rfl⟩

lemma gains_failAttachment (h : call.succeeded = false) :
    p.stats.Gains 0 [] [call] p.failAttachment.stats :=
  ⟨rfl, rfl, by rw [List.countP_singleton, h]; rfl, by rw [List.countP_singleton, h]; rfl⟩

end Gains

/-! ### Calls for each counter -/

section Ensures

open Session

variable {w : Worker} {calls : List Call} {link : Link Progress}

lemma revision?_put (d : Document) (current : Option Revision)
    (answer : Except TransportError Response) :
    Call.revision? ⟨w.putRequest d current, answer⟩ = ((Operation.putDocument w.db d.id current
      { d with rev := current.map Revision.display }.body).outcome answer).toOption := by
  cases current <;> rfl

/-- The loop over the revisions of a document makes a chain of writes. Documents that are written
one by one are not remembered. -/
lemma ensures_putRevisions (d : Document) (current : Option Revision) (passes : List Nat) :
    (w.putRevisions d current passes).Ensures (fun last calls' link' => ∃ puts,
      calls' = calls ++ puts ∧ Puts w d current passes.length puts last ∧
        link.owner.stats.Gains (puts.countP fun call => !call.succeeded) puts []
          link'.owner.stats ∧ link'.owner.tracker = link.owner.tracker) calls link := by
  -- what has been written so far can be continued by what the passes that are left may write
  refine ensures_logic.holds_putRevisions (fun _ _ => trivial)
    (fun left known calls' link' => ∃ puts, calls' = calls ++ puts ∧
      (∀ more last, Puts w d known left.length more last →
        Puts w d current passes.length (puts ++ more) last) ∧
      link.owner.stats.Gains (puts.countP fun call => !call.succeeded) puts []
        link'.owner.stats ∧ link'.owner.tracker = link.owner.tracker)
    ?put ?finish passes ⟨[], (List.append_nil _).symm, fun _ _ h => h, .refl _, rfl⟩
  case put =>
    rintro pass left known _ link' ⟨puts, rfl, hputs, hgains, htracker⟩
    refine ensures_perform fun answer n time => ?_
    have hrevision := revision?_put (w := w) d known answer
    generalize (Operation.putDocument w.db d.id known _).outcome answer = result at hrevision
    cases result with
    | ok rev =>
      have hmade : Call.succeeded ⟨w.putRequest d known, answer⟩ = true := by
        simp [Call.succeeded, hrevision, Except.toOption]
      refine ⟨puts ++ [⟨w.putRequest d known, answer⟩], List.append_assoc .., ?_, ?_, htracker⟩
      · intro more last hmore
        rw [List.append_assoc]
        exact hputs _ last (.next _ _ _ rev _ _ rfl hrevision hmore)
      · rw [List.countP_append]
        exact hgains.trans (gains_writeDocument _ hmade time)
    | error e =>
      have hfailed : Call.succeeded ⟨w.putRequest d known, answer⟩ = false := by
        simp [Call.succeeded, hrevision, Except.toOption]
      refine ⟨puts ++ [⟨w.putRequest d known, answer⟩], List.append_assoc ..,
        hputs _ none (.fail _ _ _ rfl hrevision), ?_, htracker⟩
      rw [List.countP_append]
      exact hgains.trans (gains_failDocument _ hfailed)
  case finish =>
    rintro known _ link' ⟨puts, rfl, hputs, hgains⟩
    refine ⟨puts, rfl, ?_, hgains⟩
    rw [← List.append_nil puts]
    exact hputs [] known (.finish known)

/-- The loop over the attachments of a document makes one call for each of them. -/
lemma ensures_uploadAttachments (d : Document) (rev : Revision) (attachments : List Attachment) :
    (w.uploadAttachments d.id rev attachments).Ensures (fun _ calls' link' => ∃ uploads,
      calls' = calls ++ uploads ∧ Uploads w d rev attachments uploads ∧
        link.owner.stats.Gains 0 [] uploads link'.owner.stats ∧
        link'.owner.tracker = link.owner.tracker) calls link := by
  refine ensures_logic.holds_uploadAttachments (fun _ _ => trivial)
    (fun left latest calls' link' => ∃ uploads, calls' = calls ++ uploads ∧
      (∀ more, Uploads w d latest left more → Uploads w d rev attachments (uploads ++ more)) ∧
      link.owner.stats.Gains 0 [] uploads link'.owner.stats ∧
      link'.owner.tracker = link.owner.tracker)
    ?upload ?finish attachments ⟨[], (List.append_nil _).symm, fun _ h => h, .refl _, rfl⟩
  case upload =>
    rintro a left latest _ link' ⟨uploads, rfl, huploads, hgains, htracker⟩
    refine ensures_perform fun answer n time => ?_
    have hrevision : Call.revision? ⟨w.uploadRequest d a latest, answer⟩ =
        ((Operation.putAttachment w.db d.id a.name latest a.contentType
          (Worker.payloadBody a.payload)).outcome answer).toOption := rfl
    generalize (Operation.putAttachment w.db d.id a.name latest a.contentType _).outcome answer =
      result at hrevision
    have hmore (known : Revision) (hknown : (Call.revision?
        ⟨w.uploadRequest d a latest, answer⟩).getD latest = known) (more : List Call)
        (h : Uploads w d known left more) : Uploads w d rev attachments
          (uploads ++ [⟨w.uploadRequest d a latest, answer⟩] ++ more) := by
      rw [List.append_assoc]
      exact huploads _ (.cons _ _ _ _ _ rfl (by rwa [hknown]))
    cases result with
    | ok next =>
      have hmade : Call.succeeded ⟨w.uploadRequest d a latest, answer⟩ = true := by
        simp [Call.succeeded, hrevision, Except.toOption]
      exact ⟨_, List.append_assoc .., hmore next (by simp [hrevision, Except.toOption]),
        hgains.trans (gains_uploadAttachment _ hmade time), htracker⟩
    | error e =>
      have hfailed : Call.succeeded ⟨w.uploadRequest d a latest, answer⟩ = false := by
        simp [Call.succeeded, hrevision, Except.toOption]
      exact ⟨_, List.append_assoc .., hmore latest (by simp [hrevision, Except.toOption]),
        hgains.trans (gains_failAttachment _ hfailed), htracker⟩
  case finish =>
    rintro latest _ link' ⟨uploads, rfl, huploads, hgains⟩
    refine ⟨uploads, rfl, ?_, hgains⟩
    rw [← List.append_nil uploads]
    exact huploads [] (.nil latest)

/-- Calls that fall into one chain for each of some counters, and what is counted for them. -/
def Chained (w : Worker) (counters : List Nat) (before : Stats) (calls : List Call)
    (after : Stats) : Prop :=
  ∃ chains : List Chain, calls = chains.flatMap Chain.calls ∧
    chains.map Chain.counter = counters ∧ (∀ chain ∈ chains, chain.Made w) ∧
    before.Gains (chains.countP fun chain => !chain.completes w.config.revisions)
      (chains.flatMap Chain.puts) (chains.flatMap Chain.uploads) after

lemma Chained.nil (w : Worker) (s : Stats) : Chained w [] s [] s :=
  ⟨[], rfl, rfl, by simp, .refl s⟩

lemma Chained.concat (chain : Chain) {counters : List Nat} {s t u : Stats} {calls : List Call}
    (h : Chained w counters s calls t) (hchain : chain.Made w) (hgains : t.Gains
      (if chain.completes w.config.revisions then 0 else 1) chain.puts chain.uploads u) :
    Chained w (counters ++ [chain.counter]) s (calls ++ chain.calls) u := by
  obtain ⟨chains, rfl, rfl, hchains, hgains'⟩ := h
  refine ⟨chains ++ [chain], by simp, by simp, ?_, ?_⟩
  · intro chain' hchain'
    rcases List.mem_append.1 hchain' with hchain' | hchain'
    · exact hchains chain' hchain'
    · rwa [List.mem_singleton.1 hchain']
  · have hall := hgains'.trans hgains
    cases hcompletes : chain.completes w.config.revisions <;>
      simpa [List.countP_append, hcompletes] using hall

end Ensures

/-! ### Whole runs of a worker -/

end CouchLoad
