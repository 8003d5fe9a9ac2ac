import CouchLoad.Proofs.Load.Chains
import CouchLoad.Proofs.Load.Loops
import CouchLoad.Proofs.Program.Lines
import CouchLoad.Proofs.Server.Checking
import CouchLoad.Proofs.Server.Contents

/-!
# Documents whose answers get lost

A write whose answer got lost has been done, and it comes again. By then it names a revision that is
superseded, so it is refused, and a worker takes a refusal for a failure. With the first answer that
gets lost the revisions of a document come to their end, and of its attachments all that follow are
refused.
-/

namespace CouchLoad

open Session

/-- Sending once more helps against every error of a line, and that answer arrives. -/
def Recovering (lost : Nat → Option TransportError) : Prop :=
  ∀ n e, lost n = some e → e.isRetryable = true ∧ lost (n + 1) = none

section Arriving

variable {lost : Nat → Option TransportError}

lemma arriving_of_none {number limit : Nat} (h : lost number = none) :
    arriving lost number (limit + 1) = arriving lost (number + 1) limit + 1 :=
  if_pos h

lemma arriving_of_some {number limit : Nat} {e : TransportError} (h : lost number = some e) :
    arriving lost number (limit + 1) = 0 :=
  if_neg (by simp [h])

variable (lost)

lemma arriving_le (number limit : Nat) : arriving lost number limit ≤ limit := by
  induction limit generalizing number with
  | zero => exact Nat.le_refl _
  | succ limit ih =>
    cases h : lost number with
    | none => exact (arriving_of_none h).trans_le (Nat.succ_le_succ (ih _))
    | some e => exact (arriving_of_some h).trans_le (Nat.zero_le _)

/-- The answers to some requests and then to some more. -/
lemma arriving_add (number limit limit' : Nat) :
    arriving lost number (limit + limit') =
      if arriving lost number limit < limit then arriving lost number limit
      else limit + arriving lost (number + limit) limit' := by
  induction limit generalizing number with
  | zero => simp [arriving]
  | succ limit ih =>
    have hshift : number + 1 + limit = number + (limit + 1) := by omega
    rw [Nat.add_right_comm]
    cases h : lost number with
    | none =>
      rw [arriving_of_none h, arriving_of_none h, ih, hshift]
      split <;> split <;> omega
    | some e => rw [arriving_of_some h, arriving_of_some h, if_pos (Nat.succ_pos _)]

end Arriving

/-! ### One write over a line -/

section Writes

variable {ω σ : Type} {v : Service ω} {lost : Nat → Option TransportError} {files : Files}
  {db id : String} (C : v.Checks files db id) {n : Nat} {r : Request} {link : Link σ}
  {line : Line ω} {post : Except StoreError Revision → Line ω → Link σ → Prop}

/-- The operation that sends a write and reads a revision from the answer. -/
def revising (r : Request) : Operation Revision :=
  Operation.accepted r (Operation.readRevision r)

lemma read_revising_of_refused {response : Response} (h : response.isSuccess = false) :
    (revising r).read response = .error (Operation.refusal r response) :=
  if_neg (by simp [h])

/-- A write that names the current revision is accepted in any case. But if the answer gets lost it
comes again, and then it is refused. -/
lemma leads_revising_current (hrecovering : Recovering lost) (hready : C.Ready (n + 1) line.service)
    (hr : r.Writes db id) (hbody : ∃ bytes, Server.bodyBytes files r.body = .ok bytes)
    {current : Option Revision} (hcurrent : (C.history line.service).getLast? = current)
    (hbase : r.base? = current.map Revision.display)
    (harrives : lost line.answers = none → ∀ rev line',
      C.history line'.service = C.history line.service ++ [rev] → C.Ready n line'.service →
      line'.answers = line.answers + 1 → post (.ok rev) line' link)
    (hlost : ∀ e, lost line.answers = some e → ∀ rev line' refusal,
      C.history line'.service = C.history line.service ++ [rev] → rev ∉ C.history line.service →
      C.Ready n line'.service →
      post (.error refusal) line' { link with reconnects := link.reconnects + 1 }) :
    (perform (revising r)).Leads (v.lossy lost) files post line link := by
  obtain ⟨response, rev, hresponse, hread, hfresh, hhistory, hready'⟩ :=
    C.accept hready hr hbody (hcurrent ▸ hbase)
  cases hline : lost line.answers with
  | none =>
    refine leads_perform_arrives hresponse hline ?_
    rw [show (revising r).read response = _ from hread]
    exact harrives hline rev _ hhistory hready' rfl
  | some e =>
    obtain ⟨hretryable, hnext⟩ := hrecovering _ _ hline
    obtain ⟨hsame, hready''⟩ := C.reconnect hready'
    rw [hhistory] at hsame
    have hsuperseded : r.base? ≠ (C.history (v.reconnect
        (v.handle line.service files r).2)).getLast?.map Revision.display := by
      rw [hsame, List.getLast?_concat, hbase]
      intro heq
      obtain ⟨old, hold, hdisplay⟩ := Option.map_eq_some_iff.1 heq
      rw [Revision.display_injective hdisplay] at hold
      exact hfresh (List.mem_of_getLast? (hcurrent.trans hold))
    obtain ⟨refusal, hrefusal, hfailure, hhistory', hready'''⟩ := C.refuse hready'' hr hbody
      hsuperseded
    refine leads_perform_lost hresponse hline hretryable rfl hrefusal hnext ?_
    rw [read_revising_of_refused hfailure]
    exact hlost e hline rev _ _ (hhistory'.trans hsame) hfresh hready'''

/-- A write that cannot be sent gets no answer, and nothing is written. -/
lemma leads_revising_unsent (hready : C.Ready n line.service) (hr : r.Writes db id)
    {e : TransportError} (hbytes : Server.bodyBytes files r.body = .error e)
    (hpost : ∀ line', C.history line'.service = C.history line.service →
      C.Ready n line'.service → line'.answers = line.answers →
      post (.error (.transport e)) line' link) :
    (perform (revising r)).Leads (v.lossy lost) files post line link := by
  obtain ⟨hresponse, hhistory, hready'⟩ := C.unsent hready hr hbytes
  exact leads_perform_unsent hresponse (Server.bodyBytes_not_retryable hbytes)
    (hpost _ hhistory hready' rfl)

/-- A write that names another revision than the current one fails, and nothing is written. -/
lemma leads_revising_stale (hrecovering : Recovering lost) (hready : C.Ready n line.service)
    (hr : r.Writes db id)
    (hbase : r.base? ≠ (C.history line.service).getLast?.map Revision.display)
    (hpost : ∀ e reconnects line', C.history line'.service = C.history line.service →
      C.Ready n line'.service → post (.error e) line' { link with reconnects }) :
    (perform (revising r)).Leads (v.lossy lost) files post line link := by
  cases hbytes : Server.bodyBytes files r.body with
  | error e =>
    exact leads_revising_unsent C hready hr hbytes fun line' hhistory hready' _ =>
      hpost _ link.reconnects line' hhistory hready'
  | ok bytes =>
    obtain ⟨response, hresponse, hfailure, hhistory, hready'⟩ := C.refuse hready hr ⟨bytes, hbytes⟩
      hbase
    cases hline : lost line.answers with
    | none =>
      refine leads_perform_arrives hresponse hline ?_
      rw [read_revising_of_refused hfailure]
      exact hpost _ link.reconnects _ hhistory hready'
    | some e =>
      obtain ⟨hretryable, hnext⟩ := hrecovering _ _ hline
      obtain ⟨hsame, hready''⟩ := C.reconnect hready'
      rw [hhistory] at hsame
      obtain ⟨refusal, hrefusal, hfailure', hhistory', hready'''⟩ := C.refuse hready'' hr
        ⟨bytes, hbytes⟩ (hsame ▸ hbase)
      refine leads_perform_lost hresponse hline hretryable rfl hrefusal hnext ?_
      rw [read_revising_of_refused hfailure']
      exact hpost _ _ _ (hhistory'.trans hsame) hready'''

end Writes

/-! ### The writes of one document -/

lemma Stats.add_assoc (s t u : Stats) : (s.add t).add u = s.add (t.add u) := by
  simp only [Stats.add, Nat.add_assoc]

lemma Service.Checks.ready_of_le {ω : Type} {v : Service ω} {files : Files} {db id : String}
    (C : v.Checks files db id) {n m : Nat} {s : ω} (h : C.Ready m s) (hle : n ≤ m) :
    C.Ready n s := by
  induction hle with
  | refl => exact h
  | step _ ih => exact ih (C.weaken h)

namespace Worker

variable {ω : Type} {v : Service ω} {lost : Nat → Option TransportError} {files : Files}
  {w : Worker} {d : Document} (C : v.Checks files w.db d.id) {n : Nat} {link : Link Progress}
  {line : Line ω}

lemma writes_putRequest {current : Option Revision} :
    (w.putRequest d current).Writes w.db d.id := by
  cases current <;> exact .document rfl rfl _ rfl

lemma bodyBytes_putRequest {current : Option Revision} :
    ∃ bytes, Server.bodyBytes files (w.putRequest d current).body = .ok bytes := by
  cases current <;> exact ⟨_, rfl⟩

lemma base?_putRequest (hd : d.WellFormed) {current : Option Revision} :
    (w.putRequest d current).base? = current.map Revision.display := by
  rw [Request.base?, queryParam?_putRequest]
  cases current with
  | none => exact (hd.withRev none).body_readsAs.rev
  | some rev => rfl

lemma writes_uploadRequest {a : Attachment} {rev : Revision} :
    (w.uploadRequest d a rev).Writes w.db d.id :=
  .attachment a.name rfl rfl rfl

/-! ### As long as answers arrive -/

/-- Some writes have been accepted, and all of their answers have arrived. -/
structure Arrived (lost : Nat → Option TransportError) (C : v.Checks files w.db d.id)
    (start : Line ω) (sent : Nat) (line : Line ω) : Prop where
  all : arriving lost start.answers sent = sent
  answers : line.answers = start.answers + sent
  length : (C.history line.service).length = (C.history start.service).length + sent

namespace Arrived

variable {C : v.Checks files w.db d.id} {start line line' : Line ω} {sent : Nat}

lemma refl (start : Line ω) : Arrived lost C start 0 start := ⟨rfl, rfl, rfl⟩

/-- One more write is accepted, and its answer arrives. -/
lemma next (h : Arrived lost C start sent line) (hnone : lost line.answers = none) {rev : Revision}
    (hhistory : C.history line'.service = C.history line.service ++ [rev])
    (hanswers : line'.answers = line.answers + 1) : Arrived lost C start (sent + 1) line' where
  all := by
    rw [h.answers] at hnone
    rw [arriving_add, h.all, if_neg (Nat.lt_irrefl _), arriving_of_none hnone]
    rfl
  answers := by rw [hanswers, h.answers, Nat.add_assoc]
  length := by rw [hhistory, List.length_append, h.length, List.length_singleton, Nat.add_assoc]

/-- What cannot be sent is no write. -/
lemma idle (h : Arrived lost C start sent line)
    (hhistory : C.history line'.service = C.history line.service)
    (hanswers : line'.answers = line.answers) : Arrived lost C start sent line' :=
  ⟨h.all, hanswers.trans h.answers, by rw [hhistory, h.length]⟩

/-- The answer to the next write gets lost, and none of those that follow count. -/
lemma stop (h : Arrived lost C start sent line) {e : TransportError}
    (hlost : lost line.answers = some e) (limit : Nat) :
    arriving lost start.answers (sent + (limit + 1)) = sent := by
  rw [h.answers] at hlost
  rw [arriving_add, h.all, if_neg (Nat.lt_irrefl _), arriving_of_some hlost, Nat.add_zero]

end Arrived

/-- The revisions of a document are written up to the first answer that gets lost. That one more is
written, but it counts as a failure. -/
lemma leads_putRevisions (hrecovering : Recovering lost) (hd : d.WellFormed)
    {current : Option Revision} {passes : List Nat}
    (hcurrent : (C.history line.service).getLast? = current)
    (hready : C.Ready (passes.length + n) line.service) :
    (w.putRevisions d current passes).Leads (v.lossy lost) files (fun last line' link' =>
      let k := arriving lost line.answers passes.length
      (C.history line'.service).length =
        (C.history line.service).length + min (k + 1) passes.length ∧
      C.Ready n line'.service ∧
      link'.owner.stats = link.owner.stats.add
        { documentWrites := k, documentFailures := if k < passes.length then 1 else 0 } ∧
      if k < passes.length then last = none
      else last = (C.history line'.service).getLast? ∧ line'.answers = line.answers + k)
      line link := by
  refine (leads_logic _ files).holds_putRevisions (fun _ _ => trivial)
    (fun left known line' link' => ∃ done, done + left.length = passes.length ∧
      Arrived lost C line done line' ∧ (C.history line'.service).getLast? = known ∧
      C.Ready (left.length + n) line'.service ∧
      link'.owner.stats = link.owner.stats.add { documentWrites := done })
    ?put ?finish passes ⟨0, Nat.zero_add _, .refl line, hcurrent, hready, rfl⟩
  case put =>
    rintro pass left known line₁ link₁ ⟨done, hdone, harrived, hknown, hready, hstats⟩
    rw [List.length_cons] at hdone hready
    rw [Nat.add_right_comm] at hready
    refine leads_revising_current C hrecovering hready writes_putRequest bodyBytes_putRequest hknown
      (base?_putRequest hd) ?_ ?_
    · intro hnone rev line₂ hhistory hready' hanswers time
      refine ⟨done + 1, by omega, harrived.next hnone hhistory hanswers, ?_, hready', ?_⟩
      · rw [hhistory, List.getLast?_concat]
      · have hwrite : (link₁.owner.writeDocument time).stats =
            link₁.owner.stats.add { documentWrites := 1 } := rfl
        show (link₁.owner.writeDocument time).stats = _
        rw [hwrite, hstats, Stats.add_assoc]
        rfl
    · intro e hlost rev line₂ refusal hhistory _ hready' time
      have hk := harrived.stop hlost left.length
      rw [hdone] at hk
      have hless : done < passes.length := by omega
      simp only [hk, if_pos hless, Nat.min_eq_left hless]
      refine ⟨?_, C.ready_of_le hready' (Nat.le_add_left ..), ?_, trivial⟩
      · rw [hhistory, List.length_append, harrived.length, List.length_singleton, Nat.add_assoc]
      · have hfail : (link₁.owner.failDocuments 1).stats =
            link₁.owner.stats.add { documentFailures := 1 } := rfl
        show (link₁.owner.failDocuments 1).stats = _
        rw [hfail, hstats, Stats.add_assoc]
        rfl
  case finish =>
    rintro known line₁ link₁ ⟨done, hdone, harrived, hknown, hready, hstats⟩
    obtain rfl : done = passes.length := hdone
    simp only [harrived.all, Nat.lt_irrefl, if_false, Nat.min_eq_right (Nat.le_succ _)]
    rw [List.length_nil, Nat.zero_add] at hready
    exact ⟨harrived.length, hready, hstats, hknown.symm, harrived.answers⟩

/-- How many attachments can be sent. -/
def sendable (files : Files) (attachments : List Attachment) : Nat :=
  attachments.countP fun a => (Server.bodyBytes files (payloadBody a.payload)).isOk

lemma sendable_append (attachments attachments' : List Attachment) :
    sendable files (attachments ++ attachments') =
      sendable files attachments + sendable files attachments' :=
  List.countP_append

lemma sendable_le (attachments : List Attachment) :
    sendable files attachments ≤ attachments.length :=
  List.countP_le_length

lemma sendable_concat (done : List Attachment) (a : Attachment) :
    sendable files (done ++ [a]) =
      sendable files done + (Server.bodyBytes files (payloadBody a.payload)).isOk.toNat := by
  rw [sendable_append]
  cases h : Server.bodyBytes files (payloadBody a.payload) <;>
    simp [sendable, h, Except.isOk, Except.toBool]

section Uploading

variable (lost) (start : Line ω) (before : Stats) (done left : List Attachment) (rev : Revision)
  (line : Line ω) (stats : Stats)

/-- Some attachments have been dealt with before others that are left, and all answers have arrived:
the revision that the worker knows is the current one. -/
structure Timely : Prop where
  arrived : Arrived lost C start (sendable files done) line
  last : (C.history line.service).getLast? = some rev
  ready : C.Ready left.length line.service
  counted : stats = before.add
    { attachmentWrites := sendable files done
      attachmentFailures := done.length - sendable files done }

/-- The answer to an upload has got lost after `k` others: the revision that the worker knows is
superseded by one that it does not know. -/
structure Late (k : Nat) : Prop where
  arrived : arriving lost start.answers (sendable files (done ++ left)) = k
  less : k < sendable files (done ++ left)
  le : k ≤ done.length
  length : (C.history line.service).length = (C.history start.service).length + (k + 1)
  superseded : (C.history line.service).getLast? ≠ some rev
  ready : C.Ready 0 line.service
  counted : stats = before.add { attachmentWrites := k, attachmentFailures := done.length - k }

end Uploading

section Steps

variable {C : v.Checks files w.db d.id} {start line line' : Line ω} {before stats : Stats}
  {done left : List Attachment} {a : Attachment} {rev rev' : Revision} {k : Nat}

/-- One more attachment that fails is one more that has been dealt with. -/
lemma counted_failure (hle : k ≤ done.length) (hcounted : stats = before.add
      { attachmentWrites := k, attachmentFailures := done.length - k }) :
    stats.add { attachmentFailures := 1 } = before.add
      { attachmentWrites := k, attachmentFailures := (done ++ [a]).length - k } := by
  rw [hcounted, Stats.add_assoc, List.length_append, List.length_singleton,
    Nat.sub_add_comm hle]
  rfl

/-- The next attachment cannot be sent. -/
lemma Timely.skip (h : Timely lost C start before done (a :: left) rev line stats)
    {e : TransportError} (hbytes : Server.bodyBytes files (payloadBody a.payload) = .error e)
    (hhistory : C.history line'.service = C.history line.service)
    (hready : C.Ready left.length line'.service) (hanswers : line'.answers = line.answers) :
    Timely lost C start before (done ++ [a]) left rev line'
      (stats.add { attachmentFailures := 1 }) := by
  have hdone : sendable files (done ++ [a]) = sendable files done := by
    rw [sendable_concat, hbytes]
    rfl
  refine ⟨?_, hhistory ▸ h.last, hready, ?_⟩
  · rw [hdone]
    exact h.arrived.idle hhistory hanswers
  · rw [hdone]
    exact counted_failure (sendable_le done) h.counted

/-- The next attachment is uploaded, and the worker learns its revision. -/
lemma Timely.upload (h : Timely lost C start before done (a :: left) rev line stats)
    {bytes : List UInt8} (hbytes : Server.bodyBytes files (payloadBody a.payload) = .ok bytes)
    (hnone : lost line.answers = none)
    (hhistory : C.history line'.service = C.history line.service ++ [rev'])
    (hready : C.Ready left.length line'.service)
    (hanswers : line'.answers = line.answers + 1) :
    Timely lost C start before (done ++ [a]) left rev' line'
      (stats.add { attachmentWrites := 1 }) := by
  have hdone : sendable files (done ++ [a]) = sendable files done + 1 := by
    rw [sendable_concat, hbytes]
    rfl
  refine ⟨?_, ?_, hready, ?_⟩
  · rw [hdone]
    exact h.arrived.next hnone hhistory hanswers
  · rw [hhistory, List.getLast?_concat]
  · rw [h.counted, Stats.add_assoc, hdone, List.length_append, List.length_singleton,
      Nat.add_sub_add_right]
    rfl

/-- The next attachment is uploaded, but the worker does not learn its revision. -/
lemma Timely.lose (h : Timely lost C start before done (a :: left) rev line stats)
    {bytes : List UInt8} (hbytes : Server.bodyBytes files (payloadBody a.payload) = .ok bytes)
    {e : TransportError} (hlost : lost line.answers = some e)
    (hhistory : C.history line'.service = C.history line.service ++ [rev'])
    (hfresh : rev' ∉ C.history line.service) (hready : C.Ready left.length line'.service) :
    Late lost C start before (done ++ [a]) left rev line' (stats.add { attachmentFailures := 1 })
      (sendable files done) := by
  have hall : sendable files ((done ++ [a]) ++ left) =
      sendable files done + (sendable files left + 1) := by
    rw [sendable_append, sendable_concat, hbytes, Nat.add_assoc, Nat.add_comm (sendable files left)]
    rfl
  refine ⟨?_, by omega, ?_, ?_, ?_, C.ready_of_le hready (Nat.zero_le _),
    counted_failure (sendable_le done) h.counted⟩
  · rw [hall]
    exact h.arrived.stop hlost _
  · rw [List.length_append]
    exact Nat.le_add_right_of_le (sendable_le done)
  · rw [hhistory, List.length_append, h.arrived.length, List.length_singleton, Nat.add_assoc]
  · rw [hhistory, List.getLast?_concat]
    rintro ⟨⟩
    exact hfresh (List.mem_of_getLast? h.last)

/-- The next attachment is refused, because the worker names a revision that is superseded. -/
lemma Late.refuse (h : Late lost C start before done (a :: left) rev line stats k)
    (hhistory : C.history line'.service = C.history line.service)
    (hready : C.Ready 0 line'.service) :
    Late lost C start before (done ++ [a]) left rev line' (stats.add { attachmentFailures := 1 })
      k := by
  have hsplit : (done ++ [a]) ++ left = done ++ a :: left := List.append_assoc done [a] left
  refine ⟨hsplit ▸ h.arrived, hsplit ▸ h.less, ?_, hhistory ▸ h.length, hhistory ▸ h.superseded,
    hready, counted_failure h.le h.counted⟩
  rw [List.length_append]
  exact Nat.le_add_right_of_le h.le

/-- A revision that is superseded is not the one that the next upload would have to name. -/
lemma Late.base?_ne (h : Late lost C start before done left rev line stats k) :
    (w.uploadRequest d a rev).base? ≠ (C.history line.service).getLast?.map Revision.display := by
  intro heq
  obtain ⟨old, hold, hdisplay⟩ := Option.map_eq_some_iff.1 heq.symm
  exact h.superseded (hold.trans (congrArg some (Revision.display_injective hdisplay)))

end Steps

/-- Attachments are uploaded up to the first answer that gets lost. That one more is uploaded, but
it counts as a failure. All that follow are refused, because their revision is superseded. -/
lemma leads_uploadAttachments (hrecovering : Recovering lost) {rev : Revision}
    {attachments : List Attachment}
    (hcurrent : (C.history line.service).getLast? = some rev)
    (hready : C.Ready attachments.length line.service) :
    (w.uploadAttachments d.id rev attachments).Leads (v.lossy lost) files (fun _ line' link' =>
      let k := arriving lost line.answers (sendable files attachments)
      (C.history line'.service).length =
        (C.history line.service).length + min (k + 1) (sendable files attachments) ∧
      link'.owner.stats = link.owner.stats.add
        { attachmentWrites := k, attachmentFailures := attachments.length - k })
      line link := by
  refine (leads_logic _ files).holds_uploadAttachments (fun _ _ => trivial)
    (fun left rev line' link' => ∃ done, attachments = done ++ left ∧
      (Timely lost C line link.owner.stats done left rev line' link'.owner.stats ∨
        ∃ k, Late lost C line link.owner.stats done left rev line' link'.owner.stats k))
    ?upload ?finish attachments ⟨[], rfl, .inl ⟨.refl line, hcurrent, hready, rfl⟩⟩
  case upload =>
    rintro a left rev line₁ link₁ ⟨done, rfl, h⟩
    have hsplit : done ++ a :: left = (done ++ [a]) ++ left := by simp
    rcases h with h | ⟨k, h⟩
    · cases hbytes : Server.bodyBytes files (payloadBody a.payload) with
      | error e =>
        refine leads_revising_unsent C (C.weaken h.ready) writes_uploadRequest hbytes ?_
        intro line₂ hhistory hready' hanswers time
        exact ⟨_, hsplit, .inl (h.skip hbytes hhistory hready' hanswers)⟩
      | ok bytes =>
        refine leads_revising_current C hrecovering h.ready writes_uploadRequest ⟨bytes, hbytes⟩
          h.last rfl ?_ ?_
        · intro hnone rev' line₂ hhistory hready' hanswers time
          exact ⟨_, hsplit, .inl (h.upload hbytes hnone hhistory hready' hanswers)⟩
        · intro e hlost rev' line₂ refusal hhistory hfresh hready' time
          exact ⟨_, hsplit, .inr ⟨_, h.lose hbytes hlost hhistory hfresh hready'⟩⟩
    · refine leads_revising_stale C hrecovering h.ready writes_uploadRequest h.base?_ne ?_
      intro e reconnects line₂ hhistory hready' time
      exact ⟨_, hsplit, .inr ⟨k, h.refuse hhistory hready'⟩⟩
  case finish =>
    rintro rev line₁ link₁ ⟨done, rfl, h⟩
    rw [List.append_nil]
    rcases h with h | ⟨k, h⟩
    · simp only [h.arrived.all, Nat.min_eq_right (Nat.le_succ _)]
      exact ⟨h.arrived.length, h.counted⟩
    · have harrived := h.arrived
      have hless := h.less
      rw [List.append_nil] at harrived hless
      simp only [harrived, Nat.min_eq_left (Nat.succ_le_of_lt hless)]
      exact ⟨h.length, h.counted⟩

section Documents

variable (link) (hrecovering : Recovering lost) (hd : d.WellFormed)
  (hnew : C.history line.service = [])
  (hready : C.Ready (w.config.revisions + d.attachments.length) line.service)
include hrecovering hd hnew hready

/-- An answer to a revision gets lost, and no attachments follow. -/
lemma leads_writeDocument_stopped
    (hlost : arriving lost line.answers w.config.revisions < w.config.revisions) :
    (w.writeDocument d).Leads (v.lossy lost) files (fun _ line' link' =>
      (C.history line'.service).length = arriving lost line.answers w.config.revisions + 1 ∧
      link'.owner.stats = link.owner.stats.add
        { documentWrites := arriving lost line.answers w.config.revisions
          documentFailures := 1 }) line link := by
  have hlength : (List.range' 1 w.config.revisions).length = w.config.revisions :=
    List.length_range'
  refine leads_bind ((leads_putRevisions C hrecovering hd (congrArg List.getLast? hnew)
    (hlength ▸ hready)).mono ?_)
  simp only [hlength, hnew, List.length_nil, Nat.zero_add, if_pos hlost]
  rintro last line' link' ⟨hhistory, -, hstats, hend⟩
  rw [hend]
  exact leads_pure ⟨hhistory.trans (Nat.min_eq_left hlost), hstats⟩

/-- The answers to all revisions arrive, and attachments follow. -/
lemma leads_writeDocument_uploads (hrevisions : 0 < w.config.revisions)
    (harrive : arriving lost line.answers w.config.revisions = w.config.revisions) :
    (w.writeDocument d).Leads (v.lossy lost) files (fun _ line' link' =>
      let k := arriving lost (line.answers + w.config.revisions) (sendable files d.attachments)
      (C.history line'.service).length =
        w.config.revisions + min (k + 1) (sendable files d.attachments) ∧
      link'.owner.stats = link.owner.stats.add
        { documentWrites := w.config.revisions
          attachmentWrites := k
          attachmentFailures := d.attachments.length - k }) line link := by
  have hlength : (List.range' 1 w.config.revisions).length = w.config.revisions :=
    List.length_range'
  refine leads_bind ((leads_putRevisions C hrecovering hd (congrArg List.getLast? hnew)
    (hlength ▸ hready)).mono ?_)
  simp only [hlength, hnew, List.length_nil, Nat.zero_add, harrive, Nat.lt_irrefl, if_false]
  rintro last line' link' ⟨hhistory, hready', hstats, hlast, hanswers⟩
  rw [Nat.min_eq_right (Nat.le_succ _)] at hhistory
  obtain ⟨rev, hrev⟩ : ∃ rev, last = some rev := by
    rw [hlast, List.getLast?_eq_some_getLast (List.ne_nil_of_length_pos (by omega))]
    exact ⟨_, rfl⟩
  rw [hrev] at hlast ⊢
  refine (leads_uploadAttachments C hrecovering hlast.symm hready').mono ?_
  simp only [hanswers, hhistory]
  rintro _ line'' link'' ⟨hhistory', hstats'⟩
  refine ⟨hhistory', ?_⟩
  rw [hstats', hstats, Stats.add_assoc]
  simp [Stats.add]

end Documents

/-- Take any service that checks revisions, any line that loses answers so that second attempts get
through, and any document of a template that the service does not have. Up to the first write whose
answer gets lost everything is written, and it counts as such; that write is accepted as well, but
it counts as a failure. Nothing comes after it: if it was a revision, no further revisions and no
attachments are sent, and if it was an attachment, all attachments behind it are refused. -/
theorem first_lost_answer_ends_writes {ω : Type} {v : Service ω}
    {lost : Nat → Option TransportError} {w : Worker} {counter : Nat} {d : Document}
    (hrecovering : Recovering lost) (hrevisions : 0 < w.config.revisions)
    (hd : w.config.Renders counter d) (world : World (Line ω))
    (C : v.Checks world.files w.db d.id) (hnew : C.history world.server.service = [])
    (hready : C.Ready (w.config.revisions + d.attachments.length) world.server.service)
    (link : Link Progress) :
    let writes := w.config.revisions + sendable world.files d.attachments
    let written := arriving lost world.server.answers writes
    let uploaded := written - w.config.revisions
    let out := ((v.lossy lost).session link (w.writeDocument d)).run world
    (C.history out.2.server.service).length = min (written + 1) writes ∧
      out.1.2.owner.stats = link.owner.stats.add
        { documentWrites := min written w.config.revisions
          documentFailures := if written < w.config.revisions then 1 else 0
          attachmentWrites := uploaded
          attachmentFailures :=
            if written < w.config.revisions then 0 else d.attachments.length - uploaded } := by
  intro writes written uploaded
  have hwritten : written = if _ then _ else _ := arriving_add lost world.server.answers
    w.config.revisions (sendable world.files d.attachments)
  by_cases hlost : arriving lost world.server.answers w.config.revisions < w.config.revisions
  · rw [if_pos hlost] at hwritten
    have hless : written < w.config.revisions := hwritten ▸ hlost
    obtain ⟨hlength, hstats⟩ := (leads_writeDocument_stopped C link hrecovering hd.wellFormed hnew
      hready hlost world rfl rfl).2
    rw [← hwritten] at hlength hstats
    refine ⟨hlength.trans (by omega), hstats.trans ?_⟩
    rw [if_pos hless, if_pos hless, Nat.min_eq_left hless.le, show uploaded = 0 by omega]
  · rw [if_neg hlost] at hwritten
    have hall : arriving lost world.server.answers w.config.revisions = w.config.revisions :=
      Nat.le_antisymm (arriving_le ..) (Nat.not_lt.1 hlost)
    have hmore : ¬written < w.config.revisions := by omega
    obtain ⟨hlength, hstats⟩ := (leads_writeDocument_uploads C link hrecovering hd.wellFormed hnew
      hready hrevisions hall world rfl rfl).2
    refine ⟨hlength.trans (by omega), hstats.trans ?_⟩
    have huploaded : uploaded = arriving lost (world.server.answers + w.config.revisions)
        (sendable world.files d.attachments) := by omega
    rw [if_neg hmore, if_neg hmore, Nat.min_eq_right (Nat.not_lt.1 hmore), huploaded]

/-! ### One lost answer -/

/-- A worker that writes one document twice and then its attachment. -/
def attached : Worker where
  number := 1
  db := "testdb"
  partition := ⟨1, 1⟩
  config := { Config.small with
    bulkBatch := 1, conflicts := 0
    template := ⟨[.literal "\x7b\"_id\":\"a\",\"_attachments\":".toList,
      .literal "\x7b\"f\":\x7b\"data\":\"x\"\x7d\x7d\x7d".toList]⟩ }

/-- A line that loses one answer. -/
def losing (number : Nat) : Nat → Option TransportError := fun n =>
  if n = number then some (.http "http://localhost:5984/" "error decoding response body") else none

lemma recovering_losing (number : Nat) : Recovering (losing number) := by
  intro n e he
  unfold losing at he ⊢
  split at he
  · cases he
    exact ⟨rfl, if_neg (by omega)⟩
  · cases he

/-- An empty database at the other end of a line. -/
def emptyLine : World (Line Server) where
  server := ⟨({} : Server).addDatabase "testdb", 0⟩
  files _ := .error .notFound
  sources _ := .ofSeed 0

lemma readyFor_emptyLine : emptyLine.server.service.ReadyFor "testdb" "a" 3 where
  pending := rfl
  database := by decide
  wellKept := by
    intro d hd
    cases hd
  bound := by decide

/-- The second answer gets lost. -/
theorem first_lost_answer_ends_writes_attached :
    let d : Document := ⟨"a", none, [], [⟨"f", none, .inline [120]⟩]⟩
    let out := ((Server.service.lossy (losing 1)).session { owner := { source := .ofSeed 0 } }
      (attached.writeDocument d)).run emptyLine
    Recovering (losing 1) ∧ attached.config.Renders 1 d ∧
      (Server.revisions "testdb" "a" out.2.server.service).length = 2 ∧
      out.1.2.owner.stats = { documentWrites := 1, documentFailures := 1 } := by
  intro d
  have hd : attached.config.Renders 1 d :=
    ⟨fun _ => .error .notFound, (Entropy.Uuid.draw (.ofSeed 0)).1, .ofSeed 0, by decide +kernel⟩
  obtain ⟨hlength, hstats⟩ := first_lost_answer_ends_writes (recovering_losing 1) (by decide) hd
    emptyLine (Server.checks emptyLine.files "testdb" (by decide)) rfl readyFor_emptyLine
    { owner := { source := .ofSeed 0 } }
  rw [Server.history_checks] at hlength
  refine ⟨recovering_losing 1, hd, hlength.trans ?_, hstats.trans ?_⟩
  · decide +kernel
  · decide +kernel

/-- The first answer gets lost. Of two revisions the server accepts one, which counts as a failure,
and the attachment is not uploaded. -/
theorem lost_answer_breaks_chain :
    let out := ((Server.service.lossy (losing 0)).work attached).run emptyLine
    Recovering (losing 0) ∧ attached.config.revisions = 2 ∧
      (Server.revisions "testdb" "a" out.2.server.service).length = 1 ∧
      ((out.2.server.service.document? "testdb" "a").map (·.attachments.length)) = some 0 ∧
      out.1.toOption.map Report.stats = some { documentFailures := 1, reconnects := 1 } :=
  ⟨recovering_losing 0, rfl, by decide +kernel, by decide +kernel, by decide +kernel⟩

end Worker

end CouchLoad
