import CouchLoad.Proofs.Load.Composition
import CouchLoad.Proofs.Server.Contents
import CouchLoad.Proofs.Server.Outages

/-!
# Outages that make no difference

If every request that is dropped gets through when it is sent again, a worker does not notice: it
runs as it does where nothing is dropped. The two runs go side by side, request by request, and a
dropped attempt is a step that only one of them takes.
-/

namespace CouchLoad

open Server Session

namespace Server

/-- If retries get through now, they do so after the next request. -/
lemma RetriesPass.handle {outages : Nat → Option Nat} {s : Server} (h : RetriesPass outages s)
    (files : Files) (r : Request) :
    RetriesPass outages ((s.interrupt outages).handle files r).2 := by
  intro n
  rw [requests_handle, requests_interrupt, Array.size_push, pendingFailures_handle,
    pendingFailures_interrupt]
  exact h (n + 1)

/-- Failures that are injected before every request decide by themselves what is dropped. -/
lemma pendingAt_some (f : Nat → Nat) (number pending n : Nat) :
    pendingAt (fun k => some (f k)) number pending n = f (number + n) := by
  induction n generalizing number pending with
  | zero => rfl
  | succ n ih => rw [pendingAt, ih, Nat.add_right_comm, Nat.add_assoc]

/-- Any attempts can be dropped, as long as no two of them follow each other. -/
lemma retriesPass_some {f : Nat → Nat} (h : ∀ k, f k ≠ 0 → f (k + 1) = 0) (s : Server) :
    RetriesPass (fun k => some (f k)) s := by
  intro n hn
  rw [pendingAt_some] at hn ⊢
  exact h _ hn

end Server

namespace Premise

variable (S : Premise)

/-- Two servers that have got the same requests since the start, but for some attempts that were
dropped at the second one. -/
structure Twins (dropped : Nat) (s s' : Server) : Prop where
  agrees : Agrees s s'
  calm : s.pendingFailures = 0
  size : S.start.requests.size ≤ s.requests.size
  follows : S.Follows s'
  retries : RetriesPass S.outages s'
  passed : passed S.outages S.start.requests.size S.start.pendingFailures (S.log s') = S.log s
  length : dropped + (S.log s).length = (S.log s').length

variable {S} {n : Nat} {s s' : Server}

namespace Twins

/-- The next request gets through at both servers. -/
lemma through (h : S.Twins n s s') (hpass : (s'.interrupt S.outages).pendingFailures = 0)
    (files : Files) (r : Request) :
    ((s'.interrupt S.outages).handle files r).1 = (s.handle files r).1 ∧
      S.Twins n (s.handle files r).2 ((s'.interrupt S.outages).handle files r).2 := by
  have hagrees : Agrees { s with requests := s.requests.push r }
      { s'.interrupt S.outages with requests := (s'.interrupt S.outages).requests.push r } :=
    ⟨(databases_interrupt ..).trans h.agrees.databases,
      (hashes_interrupt ..).trans h.agrees.hashes⟩
  obtain ⟨hvalue, hafter⟩ := alike_respond hagrees files r
  have hlog : S.log (s.handle files r).2 = S.log s ++ [r] := S.log_push h.size (requests_handle ..)
  refine ⟨?_, ?_, ?_, ?_, h.follows.handle files r, h.retries.handle files r, ?_, ?_⟩
  · rw [handle_of_calm hpass, handle_of_calm h.calm, hvalue]
  · rwa [handle_of_calm hpass, handle_of_calm h.calm]
  · rw [pendingFailures_handle, h.calm]
  · rw [requests_handle, Array.size_push]
    exact Nat.le_succ_of_le h.size
  · rw [passed_handle h.follows, if_pos hpass, h.passed, hlog]
  · rw [hlog, log_handle h.follows, List.length_append, List.length_append, ← Nat.add_assoc,
      h.length]

/-- The next request is dropped at the second server, and the one after it will get through. -/
lemma dropped (h : S.Twins n s s') (hdrop : (s'.interrupt S.outages).pendingFailures ≠ 0)
    (files : Files) (r : Request) :
    let out := (s'.interrupt S.outages).handle files r
    out.1 = .error (.disconnected "injected failure") ∧ S.Twins (n + 1) s out.2 ∧
      (out.2.interrupt S.outages).pendingFailures = 0 := by
  intro out
  have hout := handle_of_pending hdrop files r
  refine ⟨congrArg Prod.fst hout, ⟨?_, h.calm, h.size, h.follows.handle files r,
    h.retries.handle files r, ?_, ?_⟩, ?_⟩
  · show Agrees s ((s'.interrupt S.outages).handle files r).2
    rw [hout]
    exact ⟨(databases_interrupt ..).trans h.agrees.databases,
      (hashes_interrupt ..).trans h.agrees.hashes⟩
  · rw [passed_handle h.follows, if_neg hdrop, List.append_nil, h.passed]
  · rw [log_handle h.follows, List.length_append, ← h.length]
    exact Nat.add_right_comm ..
  · have hnext := h.retries 0
    rw [pendingAt, ← pendingFailures_interrupt] at hnext
    have hzero := hnext hdrop
    rw [pendingFailures_interrupt, requests_handle, requests_interrupt, Array.size_push,
      pendingFailures_handle, pendingFailures_interrupt]
    exact hzero

lemma reconnect (h : S.Twins n s s') : S.Twins n s s'.reconnect :=
  ⟨⟨h.agrees.databases, h.agrees.hashes⟩, h.calm, h.size, ⟨h.follows.size, h.follows.pending⟩,
    h.retries, h.passed, h.length⟩

end Twins

/-! ### Sessions side by side -/

/-- Two sessions that have come equally far, of which the second one has reconnected for every
attempt that was dropped. -/
structure Paired {σ : Type} (S : Premise) (link : Link σ) (w : World Server) (link' : Link σ)
    (w' : World Server) : Prop where
  owner : link'.owner = link.owner
  files : w'.files = w.files
  steady : link.reconnects = 0
  twins : S.Twins link'.reconnects w.server w'.server

variable {σ : Type} {link link' : Link σ} {w w' : World Server}

/-- An attempt that gets through comes to the same at both servers. -/
lemma Paired.through (h : S.Paired link w link' w') (r : Request)
    (hpass : (w'.server.interrupt S.outages).pendingFailures = 0) :
    let out := (backend.send r).run w
    let out' := ((unsteady S.outages).send r).run w'
    out'.1 = out.1 ∧ S.Paired link out.2 link' out'.2 := by
  obtain ⟨hanswer, htwins⟩ := h.twins.through hpass w'.files r
  have hfiles : ((unsteady S.outages).send r).run w' =
      ((((w'.server.interrupt S.outages).handle w'.files r).1),
        { w' with server := ((w'.server.interrupt S.outages).handle w'.files r).2 }) := rfl
  rw [h.files] at hanswer htwins hfiles
  intro out out'
  have hout' : out' = _ := hfiles
  rw [hout']
  exact ⟨hanswer, h.owner, rfl, h.steady, htwins⟩

/-- A request comes to the same at both servers, at once or after a reconnect. -/
lemma Paired.send (h : S.Paired link w link' w') (r : Request) :
    (Session.send r).Reaches backend (fun answer link w =>
      (Session.send r).Reaches (unsteady S.outages) (fun answer' link' w' =>
        answer' = answer ∧ S.Paired link w link' w') link' w') link w := by
  have hfatal : ∀ e, ((backend.send r).run w).1 = .error e → e.isRetryable = false := by
    intro e he
    have hanswer : (w.server.handle w.files r).1 = .error e := he
    rw [handle_of_calm h.twins.calm] at hanswer
    exact respond_not_retryable hanswer
  apply reaches_send
  · rintro answer rfl -
    by_cases hpass : (w'.server.interrupt S.outages).pendingFailures = 0
    · obtain ⟨hanswer, hpaired⟩ := h.through r hpass
      apply reaches_send
      · rintro answer rfl -
        exact ⟨hanswer, hpaired⟩
      · intro e he hretry
        rw [hfatal e (hanswer.symm.trans he)] at hretry
        cases hretry
    · -- the first attempt is dropped, so the second one gets through
      obtain ⟨hdropped, htwins, hpass'⟩ := h.twins.dropped hpass w'.files r
      apply reaches_send
      · rintro answer rfl hnot
        cases hnot _ hdropped
      · intro e _ _
        set sent := (((unsteady S.outages).send r).run w').2
        set again : World Server := { sent.note (retryEvent r e) with
          server := (sent.note (retryEvent r e)).server.reconnect }
        have hserver : again.server = sent.server.reconnect :=
          congrArg Server.reconnect (sent.server_note _)
        have hpaired : S.Paired link w { link' with reconnects := link'.reconnects + 1 } again := by
          refine ⟨h.owner, (sent.files_note _).trans h.files, h.steady, ?_⟩
          rw [hserver]
          exact htwins.reconnect
        refine hpaired.through r ?_
        rw [pendingFailures_interrupt] at hpass' ⊢
        rw [hserver]
        exact hpass'
  · intro e he hretry
    rw [hfatal e he] at hretry
    cases hretry

lemma mirrors (S : Premise) {σ : Type} :
    Mirrors backend (unsteady S.outages) (S.Paired (σ := σ)) where
  owner h := h.owner
  files h := h.files
  update o h := ⟨rfl, h.files, h.steady, h.twins⟩
  note {link w link' w'} e h := by
    refine ⟨h.owner, ?_, h.steady, ?_⟩
    · rw [w.files_note, w'.files_note, h.files]
    · rw [w.server_note, w'.server_note]
      exact h.twins
  send r h := h.send r

lemma twins_start (hretries : RetriesPass S.outages S.start) :
    S.Twins 0 (S.start.failNext 0) S.start := by
  have hlog : S.log (S.start.failNext 0) = [] := S.log_start
  refine ⟨⟨rfl, rfl⟩, rfl, Nat.le_refl _, S.follows_start, hretries, ?_, ?_⟩
  · rw [hlog, S.log_start, Server.passed]
  · simp [hlog, S.log_start]

end Premise

/-- Reports of sessions that have come equally far. -/
lemma Worker.report_eq (worker : Worker) {link link' : Link Progress}
    (howner : link'.owner = link.owner) :
    worker.report link' = { worker.report link with stats :=
      { (worker.report link).stats with reconnects := link'.reconnects } } := by
  simp only [Worker.report, howner]

/-- A worker takes a source of randomness and gets to work. -/
lemma Backend.run_work {ω : Type} {b : Backend ω} (hconnect : b.connect = pure (.ok ()))
    (worker : Worker) (w : World ω) :
    (b.work worker).run w =
      let link : Link Progress := { owner := { source := w.sources w.sourcesTaken } }
      let out := (b.session link worker.work).run { w with sourcesTaken := w.sourcesTaken + 1 }
      (.ok (worker.report out.1.2), out.2) := by
  unfold Backend.work
  rw [hconnect]
  have hprogram := Program.run_bind b.perform
    (worker.work.run { owner := { source := w.sources w.sourcesTaken } })
    fun out => Program.done (worker.report out.2)
  exact congrArg (fun m : StateM (World ω) Report =>
    (Except.ok (m { w with sourcesTaken := w.sourcesTaken + 1 }).1,
      (m { w with sourcesTaken := w.sourcesTaken + 1 }).2)) hprogram

/-- Take any worker, any world around a server and any outages after which retries get through. Then
the worker ends as it does where nothing is dropped: with the same report, in which only the
reconnects are different, and with the same databases, down to the hashes of revisions. There is one
reconnect for every attempt that was dropped, and the other attempts are the requests of the run
without outages. -/
theorem outages_make_no_difference (outages : Nat → Option Nat) (worker : Worker)
    (w : World Server) (hretries : RetriesPass outages w.server) :
    let S : Premise := { outages, start := w.server, distinct := True }
    ∃ report dropped calm shaken,
      (backend.work worker).run { w with server := w.server.failNext 0 } = (.ok report, calm) ∧
      ((unsteady outages).work worker).run w =
        (.ok { report with stats := { report.stats with reconnects := dropped } }, shaken) ∧
      report.stats.reconnects = 0 ∧
      shaken.server.databases = calm.server.databases ∧
      shaken.server.hashes = calm.server.hashes ∧
      passed outages w.server.requests.size w.server.pendingFailures (S.log shaken.server) =
        S.log calm.server ∧
      dropped + (S.log calm.server).length = (S.log shaken.server).length := by
  intro S
  set link : Link Progress := { owner := { source := w.sources w.sourcesTaken } }
  have hstart : S.Paired link
      { w with server := w.server.failNext 0, sourcesTaken := w.sourcesTaken + 1 } link
      { w with sourcesTaken := w.sourcesTaken + 1 } := ⟨rfl, rfl, rfl, S.twins_start hretries⟩
  have hwork : worker.work.Mirrored backend (unsteady outages) S.Paired (fun _ _ _ => True) ()
      link :=
    (mirrored_logic S.mirrors).holds_work_of_send (fun _ _ => trivial) fun r _ _ _ =>
      mirrored_send S.mirrors r
  obtain ⟨-, hend, -⟩ := hwork _ _ _ hstart
  rw [Backend.run_work rfl, Backend.run_work rfl]
  refine ⟨_, _, _, _, rfl, ?_, hend.steady, hend.twins.agrees.databases,
    hend.twins.agrees.hashes, hend.twins.passed, hend.twins.length⟩
  exact congrArg (fun report => (Except.ok report, _)) (worker.report_eq hend.owner)

/-- A worker sends three batches, and every third attempt to send something is dropped. -/
theorem outages_make_no_difference_small :
    let worker : Worker := ⟨1, "testdb", ⟨1, 2⟩, Config.small⟩
    let w := World.fresh (({} : Server).addDatabase "testdb") []
    let outages : Nat → Option Nat := fun k => some (if k % 3 = 0 then 1 else 0)
    let calm := (backend.work worker).run { w with server := w.server.failNext 0 }
    let shaken := ((unsteady outages).work worker).run w
    RetriesPass outages w.server ∧ shaken.2.server.requests.size = 5 ∧
      (∃ report, calm.1 = .ok report ∧
        shaken.1 = .ok { report with stats := { report.stats with reconnects := 2 } }) ∧
      shaken.2.server.databases = calm.2.server.databases := by
  intro worker w outages calm shaken
  have hretries : RetriesPass outages w.server := by
    refine retriesPass_some (fun k hk => ?_) _
    split at hk
    · rw [if_neg (by omega)]
    · exact absurd rfl hk
  obtain ⟨report, dropped, calm', shaken', hcalm, hshaken, -, hdatabases, -, -, hlength⟩ :=
    outages_make_no_difference outages worker w hretries
  have hcalm' : calm = (.ok report, calm') := hcalm
  have hshaken' : shaken = _ := hshaken
  have hsize : shaken.2.server.requests.size = 5 := by decide +kernel
  have hsize' : calm.2.server.requests.size = 3 := by decide +kernel
  have hdropped : dropped = 2 := by
    have htotal : dropped + calm.2.server.requests.size = shaken.2.server.requests.size := by
      rw [hcalm', hshaken']
      exact hlength
    omega
  refine ⟨hretries, hsize, ⟨report, by rw [hcalm'], ?_⟩, by rw [hcalm', hshaken', hdatabases]⟩
  rw [hshaken', hdropped]

end CouchLoad
