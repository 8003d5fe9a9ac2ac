import CouchLoad.Proofs.Load.Accounting
import CouchLoad.Proofs.Load.Composition
import CouchLoad.Proofs.Load.Correspondence
import CouchLoad.Proofs.Load.Order
import CouchLoad.Simulation.Reconnects

/-!
# Counting reconnects

Every session counts how often its connection has been replaced, and a worker reports this count. So
the totals of a run count each connection of a worker that was replaced, however the workers take
turns. The connection of the run itself is left out: nobody asks its session for the count.
-/

namespace CouchLoad

variable {ω σ α β : Type} {b : Backend ω}

/-! ### What a program counts -/

namespace Program

/-- Whatever the answers are, a program that has replaced its connection some times ends with a
value that is said of all times. -/
def Tallies (post : α → Nat → Prop) : Nat → Program σ α → Prop
  | n, .done value => post value n
  | n, .ask _ action resume =>
    ∀ answer, Tallies post (n + (action.replaces answer).toNat) (resume answer)

variable {post : α → Nat → Prop} {n : Nat}

lemma Tallies.bind {post' : β → Nat → Prop} {p : Program σ α} {f : α → Program σ β}
    (h : p.Tallies post n) (hf : ∀ value n, post value n → (f value).Tallies post' n) :
    (p >>= f).Tallies post' n := by
  induction p generalizing n with
  | done value => exact hf value n h
  | ask state action resume ih => exact fun answer => ih answer (h answer)

lemma Tallies.mono {post' : α → Nat → Prop} {p : Program σ α} (h : p.Tallies post n)
    (hpost : ∀ value n, post value n → post' value n) : p.Tallies post' n := by
  induction p generalizing n with
  | done value => exact hpost value n h
  | ask state action resume ih => exact fun answer => ih answer (h answer)

lemma tallies_quiet {state : σ} {action : Action} (h : action ≠ .reconnect)
    {resume : action.Answer → Program σ α} (hresume : ∀ answer, (resume answer).Tallies post n) :
    (ask state action resume).Tallies post n := by
  intro answer
  cases action with
  | reconnect => exact absurd rfl h
  | _ => exact hresume answer

end Program

namespace Session

/-- A session counts how often its connection has been replaced, and ends with a value and a link as
said. -/
def Tallies (s : Session σ α) (post : α → Unit → Link σ → Prop) (_ : Unit) (link : Link σ) :
    Prop :=
  (s.run link).Tallies (fun out n => out.2.reconnects = n ∧ post out.1 () out.2) link.reconnects

lemma tallies_bind {s : Session σ α} {f : α → Session σ β} {post : β → Unit → Link σ → Prop}
    {link : Link σ} (h : s.Tallies (fun value => (f value).Tallies post) () link) :
    (s >>= f).Tallies post () link := by
  refine Program.Tallies.bind h ?_
  rintro out _ ⟨rfl, hrest⟩
  exact hrest

/-- What sessions count is told by a logic, in which nobody looks. -/
lemma tallies_logic : Logic (Tallies (σ := σ)) fun _ _ => True where
  holds_mono h hpost := Program.Tallies.mono h fun _ _ hout => ⟨hout.1, hpost _ _ _ hout.2⟩
  holds_pure h := ⟨rfl, h⟩
  holds_bind := tallies_bind
  holds_owner h := ⟨rfl, h⟩
  holds_update h := ⟨rfl, h⟩
  holds_ask hlocal _ h :=
    Program.tallies_quiet (by rintro rfl; exact hlocal) fun answer => ⟨rfl, h answer⟩

lemma tallies_send (r : Request) (link : Link σ) :
    (send r).Tallies (fun _ _ _ => True) () link := by
  refine Program.tallies_quiet (by simp) fun first => ?_
  cases first with
  | ok response => exact ⟨rfl, trivial⟩
  | error e =>
    show Program.Tallies _ _ (StateT.run (if e.isRetryable = true then _ else _) link)
    split
    · refine Program.tallies_quiet (by simp) fun _ => fun again => ?_
      cases again with
      | error e' => exact ⟨rfl, trivial⟩
      | ok _ => exact Program.tallies_quiet (by simp) fun _ => ⟨rfl, trivial⟩
    · exact ⟨rfl, trivial⟩

end Session

/-- A worker reports how often its connection has been replaced. -/
lemma Worker.tallies_program (w : Worker) (source : Entropy.Source) :
    (w.program source).Tallies (fun report n => report.stats.reconnects = n) 0 := by
  have hwork : w.work.Tallies (fun _ _ _ => True) () { owner := { source } } :=
    Session.tallies_logic.holds_work_of_send (fun _ _ => trivial) fun r _ link _ =>
      Session.tallies_send r link
  exact Program.Tallies.bind hwork fun out n hout => hout.1

/-- Programs that have connections of their own, and what they have counted together. -/
inductive Pool.Tallies (count : α → Nat) : Nat → Pool Nat σ α → Prop where
  | nil : Tallies count 0 []
  | cons {connection n total : Nat} {p : Program σ α} {pool : Pool Nat σ α}
      (hconnection : connection ≠ 0) (hp : p.Tallies (count · = ·) n)
      (hpool : Tallies count total pool) :
      Tallies count (n + total) ((connection, p) :: pool)

/-- What the program at a place counts is a part of what is counted together. -/
lemma Pool.Tallies.at {count : α → Nat} {total place connection : Nat} {p : Program σ α}
    {pool : Pool Nat σ α} (h : Pool.Tallies count total pool)
    (hplace : pool[place]? = some (connection, p)) :
    connection ≠ 0 ∧ ∃ n others, total = n + others ∧ p.Tallies (count · = ·) n ∧
      ∀ n' p', p'.Tallies (count · = ·) n' →
        Pool.Tallies count (n' + others) (pool.set place (connection, p')) := by
  induction h generalizing place with
  | nil => cases hplace
  | @cons k n total q pool hk hq hpool ih =>
    cases place with
    | zero =>
      cases hplace
      exact ⟨hk, n, total, rfl, hq, fun n' p' hp' => .cons hk hp' hpool⟩
    | succ place =>
      obtain ⟨hconnection, n', others, rfl, hp, hset⟩ := ih hplace
      refine ⟨hconnection, n', n + others, Nat.add_left_comm .., hp, fun n'' p' hp' => ?_⟩
      rw [Nat.add_left_comm]
      exact .cons hk hq (hset n'' p' hp')

/-! ### Connections that are watched -/

/-- How often connections of workers have been replaced. -/
def Connections.ofWorkers (cs : Connections) : Nat :=
  cs.replaced.countP (· ≠ 0)

lemma Connections.ofWorkers_add (cs : Connections) (connection : Nat) (action : Action)
    (answer : action.Answer) : (cs.add connection action answer).ofWorkers =
      cs.ofWorkers + if connection ≠ 0 then (action.replaces answer).toNat else 0 := by
  unfold add ofWorkers
  cases action.replaces answer with
  | false => simp
  | true => by_cases h : connection = 0 <;> simp [h]

lemma Connections.opened_add (cs : Connections) (connection : Nat) (action : Action)
    (answer : action.Answer) : (cs.add connection action answer).opened = cs.opened := by
  unfold add
  split <;> rfl

namespace Watching

lemma watching_bind (m : Watching ω α) (f : α → Watching ω β) (cs : Connections) (w : World ω) :
    ((m >>= f).run cs).run w =
      ((f ((m.run cs).run w).1.1).run ((m.run cs).run w).1.2).run ((m.run cs).run w).2 := rfl

/-- While the connection of the run itself is open, something ends with a value that tells how often
connections of workers are replaced meanwhile. -/
def Counts (m : Watching ω α) (post : Nat → α → Prop) : Prop :=
  ∀ cs w, 0 < cs.opened →
    let out := (m.run cs).run w
    ∃ n, out.1.2.ofWorkers = cs.ofWorkers + n ∧ 0 < out.1.2.opened ∧ post n out.1.1

variable {m : Watching ω α} {post : Nat → α → Prop}

lemma Counts.mono {post' : Nat → α → Prop} (h : m.Counts post)
    (hpost : ∀ n value, post n value → post' n value) : m.Counts post' := by
  intro cs w hcs
  obtain ⟨n, hn, hopened, hvalue⟩ := h cs w hcs
  exact ⟨n, hn, hopened, hpost n _ hvalue⟩

lemma counts_pure {value : α} (h : post 0 value) : (pure value : Watching ω α).Counts post :=
  fun _ _ hcs => ⟨0, rfl, hcs, h⟩

lemma Counts.bind {f : α → Watching ω β} {post : Nat → β → Prop}
    (h : m.Counts fun n value => (f value).Counts fun n' result => post (n + n') result) :
    (m >>= f).Counts post := by
  intro cs w hcs
  obtain ⟨n, hn, hopened, hrest⟩ := h cs w hcs
  obtain ⟨n', hn', hopened', hresult⟩ := hrest _ ((m.run cs).run w).2 hopened
  refine ⟨n + n', ?_, hopened', hresult⟩
  rw [← Nat.add_assoc, ← hn]
  exact hn'

/-- What does not know of connections leaves them alone. -/
lemma counts_lift {x : StateM (World ω) α} (h : ∀ w, post 0 (x.run w).1) :
    (liftM x : Watching ω α).Counts post :=
  fun _ w hcs => ⟨0, rfl, hcs, h w⟩

/-- A connection that is opened later than the one of the run has another number. -/
lemma counts_connect : b.watchConnect.Counts fun n opened =>
    n = 0 ∧ ∀ connection, opened = .ok connection → connection ≠ 0 := by
  refine Counts.bind (counts_lift fun w => ?_)
  cases (b.connect.run w).1 with
  | error e => exact counts_pure ⟨rfl, by simp⟩
  | ok _ =>
    refine fun cs w hcs => ⟨0, rfl, Nat.succ_pos _, rfl, ?_⟩
    rintro connection ⟨⟩
    exact Nat.ne_of_gt hcs

/-- An action counts where it replaces the connection of a worker. -/
lemma counts_perform (connection : Nat) (action : Action) :
    (b.watchPerform connection action).Counts fun n answer =>
      n = if connection ≠ 0 then (action.replaces answer).toNat else 0 := by
  intro cs w hcs
  refine ⟨_, Connections.ofWorkers_add cs connection action _, ?_, rfl⟩
  rw [← Connections.opened_add cs connection action ((b.perform action).run w).1] at hcs
  exact hcs

/-- Over the connection of the run itself nothing counts. -/
lemma counts_own (p : Program σ α) : (p.run (b.watchPerform 0)).Counts fun n _ => n = 0 := by
  induction p with
  | done value => exact counts_pure rfl
  | ask state action resume ih =>
    refine Counts.bind ((counts_perform 0 action).mono ?_)
    rintro _ answer rfl
    exact (ih answer).mono fun n _ hn => by simpa using hn

section Pool

variable {count : α → Nat} {n total connection : Nat} {pool : Pool Nat σ α}

lemma counts_run (hconnection : connection ≠ 0) {p : Program σ α} (h : p.Tallies (count · = ·) n) :
    (p.run (b.watchPerform connection)).Counts fun d value => count value = n + d := by
  induction p generalizing n with
  | done value => exact counts_pure h
  | ask state action resume ih =>
    refine Counts.bind ((counts_perform connection action).mono ?_)
    rintro _ answer rfl
    refine (ih answer (h answer)).mono fun d value hvalue => ?_
    rw [if_pos hconnection, hvalue, Nat.add_assoc]

lemma counts_step (hconnection : connection ≠ 0) {p : Program σ α} (h : p.Tallies (count · = ·) n) :
    (p.step (b.watchPerform connection)).Counts fun d p' => p'.Tallies (count · = ·) (n + d) := by
  cases p with
  | done value => exact counts_pure h
  | ask state action resume =>
    refine Counts.bind ((counts_perform connection action).mono ?_)
    rintro _ answer rfl
    rw [if_pos hconnection]
    exact counts_pure (h answer)

lemma counts_turn (h : Pool.Tallies count total pool) (place : Nat) :
    (pool.turn b.watchPerform place).Counts fun d pool' =>
      Pool.Tallies count (total + d) pool' := by
  unfold Pool.turn
  cases hplace : pool[place]? with
  | none => exact counts_pure h
  | some entry =>
    obtain ⟨connection, p⟩ := entry
    obtain ⟨hconnection, n, others, rfl, hp, hset⟩ := h.at hplace
    refine Counts.bind ((counts_step hconnection hp).mono fun d p' hp' => counts_pure ?_)
    rw [Nat.add_zero, Nat.add_right_comm]
    exact hset _ p' hp'

lemma counts_advance (h : Pool.Tallies count total pool) (schedule : List Nat) :
    (pool.advance b.watchPerform schedule).Counts fun d pool' =>
      Pool.Tallies count (total + d) pool' := by
  induction schedule generalizing pool total with
  | nil => exact counts_pure h
  | cons place schedule ih =>
    refine Counts.bind ((counts_turn h place).mono fun d pool' hpool' => ?_)
    refine (ih hpool').mono fun d' pool'' hpool'' => ?_
    rwa [Nat.add_assoc] at hpool''

lemma counts_finish (h : Pool.Tallies count total pool) :
    (pool.finish b.watchPerform).Counts fun d values => (values.map count).sum = total + d := by
  induction h with
  | nil => exact counts_pure rfl
  | @cons connection n total p pool hconnection hp hpool ih =>
    refine Counts.bind ((counts_run hconnection hp).mono fun d value hvalue => ?_)
    refine Counts.bind (ih.mono fun d' values hvalues => counts_pure ?_)
    rw [List.map_cons, List.sum_cons, hvalue, hvalues]
    omega

end Pool

/-- However workers take turns, they report together how often their connections are replaced. -/
theorem counts_together {pool : Pool Nat (Link Progress) Report}
    (h : Pool.Tallies (fun report => report.stats.reconnects) 0 pool) :
    (b.watcher.together pool).Counts fun n reports =>
      (reports.map fun report => report.stats.reconnects).sum = n := by
  refine Counts.bind (counts_lift fun w => ?_)
  refine Counts.bind ((counts_advance h _).mono fun d pool' hpool' => ?_)
  refine (counts_finish hpool').mono fun d' reports hreports => ?_
  rw [hreports]
  omega

/-- Watching does what is done without it, over connections that are numbered. -/
lemma matches_watcher : b.watcher.Matches (.forgetting Connections (World ω)) (fun _ _ => True)
    b.host where
  connect := Correspondence.forgetting_open (fun _ => rfl) fun _ _ => ⟨_, _, rfl⟩
  perform _ _ _ _ _ _ := ⟨rfl, rfl⟩
  newSource _ _ := ⟨rfl, rfl⟩
  together pool pool' hpool := by
    refine Correspondence.bind_eq _ (x := liftM World.nextSchedule) (fun _ _ => ⟨rfl, rfl⟩) ?_
    exact Correspondence.rel_pool _ (fun _ _ _ _ _ _ => ⟨rfl, rfl⟩) hpool

end Watching

/-! ### Whole runs -/

namespace Run

open Watching

variable {c : Config} {db : String}

/-- What is done over the connection of the run itself does not count. -/
lemma counts_session (s : Session Unit α) {f : α → Watching ω β} {post : Nat → β → Prop}
    (h : ∀ value, (f value).Counts post) : (b.watcher.session 0 s >>= f).Counts post := by
  refine Counts.bind (Counts.bind ((counts_own _).mono ?_))
  rintro _ out rfl
  refine counts_pure ((h out.1).mono fun n result hresult => ?_)
  simpa using hresult

lemma counts_hire (workers : List Worker) :
    (Run.hire b.watcher workers).Counts fun n hired => n = 0 ∧ ∀ pool, hired = .ok pool →
      Pool.Tallies (fun report => report.stats.reconnects) 0 pool := by
  induction workers with
  | nil => exact counts_pure ⟨rfl, by rintro pool ⟨⟩; exact .nil⟩
  | cons w ws ih =>
    refine Counts.bind (counts_connect.mono ?_)
    rintro _ opened ⟨rfl, hconnection⟩
    cases opened with
    | error e => exact counts_pure ⟨rfl, by simp⟩
    | ok connection =>
      refine Counts.bind (counts_lift fun _ => Counts.bind (ih.mono ?_))
      rintro _ hired ⟨rfl, hpool⟩
      refine counts_pure ⟨rfl, fun pool h => ?_⟩
      obtain ⟨others, rfl, rfl⟩ := map_eq_ok_iff.1 h
      exact .cons (hconnection _ rfl) (w.tallies_program _) (hpool _ rfl)

/-- Filling a database, the workers report how often connections of workers are replaced. -/
lemma counts_fill : (Run.fill b.watcher c 0 db).Counts fun n filled =>
    ∀ reports, filled = .ok reports →
      (reports.map fun report => report.stats.reconnects).sum = n := by
  refine counts_session _ fun _ => Counts.bind ((counts_hire _).mono ?_)
  rintro _ hired ⟨rfl, hpool⟩
  cases hired with
  | error e => exact counts_pure (by simp)
  | ok pool =>
    refine Counts.bind ((counts_together (hpool _ rfl)).mono fun n reports hreports => ?_)
    refine counts_session _ fun _ => counts_session _ fun _ => counts_pure ?_
    rintro reports' ⟨⟩
    simpa using hreports

/-- The summary of a database counts how often connections of workers are replaced. Where there is
no summary, that does not happen. -/
lemma counts_populate : (Run.populate b.watcher c 0 db).Counts fun n result =>
    (result = .ok none → n = 0) ∧
      ∀ summary reports, result = .ok (some (summary, reports)) → summary.stats.reconnects = n := by
  refine counts_session _ fun started => counts_session _ fun _ => ?_
  refine counts_session _ fun created => ?_
  cases created with
  | false => exact counts_pure ⟨fun _ => rfl, by simp⟩
  | true =>
    refine Counts.bind (counts_fill.mono fun n filled hfilled => ?_)
    cases filled with
    | error e => exact counts_pure ⟨by simp, by simp⟩
    | ok reports =>
      refine counts_session _ fun ended => counts_session _ fun _ => counts_pure ⟨by simp, ?_⟩
      rintro summary reports' ⟨⟩
      have htotal := Stats.map_total (f := (·.reconnects)) rfl (fun _ _ => rfl)
        (reports.map Report.stats)
      rw [List.map_map] at htotal
      exact htotal.trans (hfilled reports rfl)

lemma reconnects_totals (summary : Summary) : summary.totals.reconnects =
    (summary.databases.map fun d => d.stats.reconnects).sum := by
  have htotal := Stats.map_total (f := (·.reconnects)) rfl (fun _ _ => rfl)
    (summary.databases.map DatabaseSummary.stats)
  rwa [List.map_map] at htotal

lemma counts_populateAll (done : Summary) (dbs : List String) :
    (Run.populateAll b.watcher c 0 done dbs).Counts fun n result =>
      ∀ summary, result = .ok summary →
        summary.totals.reconnects = done.totals.reconnects + n := by
  induction dbs generalizing done with
  | nil =>
    refine counts_pure ?_
    rintro summary ⟨⟩
    rfl
  | cons db dbs ih =>
    refine Counts.bind (counts_populate.mono fun n result hresult => ?_)
    match result with
    | .error e => exact counts_pure (by simp)
    | .ok none =>
      obtain rfl := hresult.1 rfl
      exact (ih done).mono fun n result hrest summary h => (hrest summary h).trans (by simp)
    | .ok (some (database, reports)) =>
      have hdatabase : database.stats.reconnects = n := hresult.2 _ _ rfl
      refine (ih _).mono fun n' result hrest summary h => ?_
      rw [hrest summary h, reconnects_totals, reconnects_totals]
      simp [hdatabase, Nat.add_assoc]

lemma run_watchConnect (cs : Connections) (w : World ω) : (b.watchConnect.run cs).run w =
    (match (b.connect.run w).1 with
      | .error e => (.error e, cs)
      | .ok _ => (.ok cs.opened, { cs with opened := cs.opened + 1 }), (b.connect.run w).2) := by
  have hrun : (b.watchConnect.run cs).run w = ((match (b.connect.run w).1 with
      | .error e => pure (.error e)
      | .ok _ => fun cs => pure (.ok cs.opened, { cs with opened := cs.opened + 1 }) :
        Watching ω _).run cs).run (b.connect.run w).2 := rfl
  rw [hrun]
  cases (b.connect.run w).1 <;> rfl

/-- The connection of the run itself is opened first, so that all others are those of workers. -/
lemma counts_execute {summary : Summary} {w : World ω} (h : (b.watched c w).1.1 = .ok summary) :
    summary.totals.reconnects = (b.watched c w).1.2.ofWorkers := by
  have hopen := run_watchConnect (b := b) {} w
  unfold Backend.watched Run.execute at h ⊢
  rw [watching_bind, show b.watcher.connect = b.watchConnect from rfl, hopen] at h ⊢
  cases hconnect : (b.connect.run w).1 with
  | error e =>
    rw [hconnect] at h
    cases h
  | ok _ =>
    rw [hconnect] at h
    obtain ⟨n, hn, -, hcount⟩ := counts_populateAll (b := b) (c := c) ⟨[], {}⟩ c.databaseNames
      { opened := 1 } (b.connect.run w).2 Nat.zero_lt_one
    exact (hcount summary h).trans hn.symm

end Run

/-- What a run reports as reconnects is how often connections of its workers were replaced, whatever
fails and however the workers take turns. The connection of the run itself does not count, so that
the report is complete just where that connection was never replaced. Where all connections can be
opened there is a report. -/
theorem totals_count_reconnects (b : Backend ω) (c : Config) (w : World ω) :
    let out := (Run.execute b.host c).run w
    let replaced := b.replaced c w
    ((b.watched c w).1.1 = out.1 ∧ (b.watched c w).2 = out.2) ∧
      (∀ summary, out.1 = .ok summary →
        summary.totals.reconnects = replaced.countP (· ≠ 0) ∧
          (summary.totals.reconnects = replaced.length ↔ 0 ∉ replaced)) ∧
      ((∀ w, (b.connect.run w).1 = .ok ()) → ∃ summary, out.1 = .ok summary) := by
  intro out replaced
  have hwatched : (b.watched c w).1.1 = out.1 ∧ (b.watched c w).2 = out.2 :=
    (Watching.matches_watcher (b := b)).execute c {} w
  refine ⟨hwatched, fun summary hsummary => ?_, fun hconnect => ?_⟩
  · have hcount : summary.totals.reconnects = replaced.countP (· ≠ 0) :=
      Run.counts_execute (hwatched.1.trans hsummary)
    refine ⟨hcount, ?_⟩
    rw [hcount, List.countP_eq_length]
    simp only [decide_eq_true_eq]
    exact ⟨fun hall h => hall 0 h rfl, fun h n hn heq => h (heq ▸ hn)⟩
  · obtain ⟨hvalue, -⟩ := Run.erases_execute (b := b) c {} w
    obtain ⟨-, -, -, -, summary, hresult, -⟩ := Run.adds_populateAll hconnect c ⟨[], {}⟩
      c.databaseNames { opened := 1 } (b.connect.run w).2 Nat.zero_lt_one
    refine ⟨summary, hvalue.symm.trans ?_⟩
    rw [Run.run_execute (hconnect w)]
    exact hresult

/-- In the small run a request of a worker is dropped, and the connection of the worker is replaced
once. -/
theorem totals_count_reconnects_small :
    let b := Server.unsteady fun number => if number = 2 then some 1 else none
    let w := World.fresh {} [[0, 1, 1, 0]]
    (∀ w, (b.connect.run w).1 = .ok ()) ∧ b.replaced Config.small w = [1] ∧
      ∃ summary, ((Run.execute b.host Config.small).run w).1 = .ok summary ∧
        summary.totals.reconnects = 1 := by
  intro b w
  have hconnect : ∀ w, (b.connect.run w).1 = .ok () := fun _ => rfl
  have hreplaced : b.replaced Config.small w = [1] := by decide +kernel
  obtain ⟨-, hcount, hok⟩ := totals_count_reconnects b Config.small w
  obtain ⟨summary, hsummary⟩ := hok hconnect
  refine ⟨hconnect, hreplaced, summary, hsummary, ?_⟩
  rw [(hcount summary hsummary).1, hreplaced]
  rfl

/-- The creation of the database is dropped, and over a new connection it succeeds. The connection
of the run itself has been replaced, and the run reports no reconnect. -/
theorem own_reconnect_is_uncounted :
    let b := Server.unsteady fun number => if number = 0 then some 1 else none
    let w := World.fresh {} []
    b.replaced Config.small w = [0] ∧
      ((Run.execute b.host Config.small).run w).1.toOption.map (fun summary =>
        (summary.databases.map DatabaseSummary.name, summary.totals.reconnects)) =
          some (Config.small.databaseNames, 0) := by
  decide +kernel

end CouchLoad
