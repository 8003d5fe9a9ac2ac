import CouchLoad.Proofs.Program.Sessions
import Mathlib.Data.List.ModifyLast

/-!
# Programs against arbitrary surroundings

Surroundings may answer a program as they like: an answer may depend on everything that was asked
and answered before. All answers are possible, in any order, so what a program does against such
surroundings it does everywhere.

The turns of a session fall into calls. A call is a request with what came of it in the end, whether
it was sent once or, after a reconnect, once more.
-/

namespace CouchLoad

variable {σ α β : Type}

/-- An action and its answer. -/
structure Turn where
  action : Action
  answer : action.Answer

/-- The turns of a program with surroundings that answer as they like, and its value, after some
turns in the past. -/
def Program.against (reply : List Turn → (action : Action) → action.Answer) :
    List Turn → Program σ α → List Turn × α
  | _, .done value => ([], value)
  | past, .ask _ action resume =>
    let turn : Turn := ⟨action, reply past action⟩
    let out := (resume turn.answer).against reply (past ++ [turn])
    (turn :: out.1, out.2)

/-- Every run in some world is a run against surroundings that answer as this world does. -/
theorem Program.exists_against {ω : Type} (perform : (action : Action) → StateM ω action.Answer)
    (p : Program σ α) (w : ω) :
    ∃ reply, ((p.run perform).run w).1 = (p.against reply []).2 := by
  let after (turns : List Turn) : ω :=
    turns.foldl (fun w turn => ((perform turn.action).run w).2) w
  refine ⟨fun past action => ((perform action).run (after past)).1, ?_⟩
  suffices h : ∀ past, ((p.run perform).run (after past)).1 =
      (p.against (fun past action => ((perform action).run (after past)).1) past).2 from h []
  intro past
  induction p generalizing past with
  | done value => rfl
  | ask state action resume ih =>
    have hnext : ((perform action).run (after past)).2 =
        after (past ++ [⟨action, ((perform action).run (after past)).1⟩]) := by
      simp only [after, List.foldl_append, List.foldl_cons, List.foldl_nil]
    have hrest := ih ((perform action).run (after past)).1
      (past ++ [⟨action, ((perform action).run (after past)).1⟩])
    rw [← hnext] at hrest
    exact hrest

/-- A request and what came of it. -/
structure Call where
  request : Request
  answer : Except TransportError Response

/-- The calls so far, and whether there has been a reconnect since the last of them. -/
structure Ledger where
  calls : List Call := []
  reconnected : Bool := false

namespace Ledger

/-- Add a turn. After a reconnect the request of the last call belongs to that call still; a
reconnect that fails is what came of it. -/
def add (l : Ledger) (turn : Turn) : Ledger :=
  match turn with
  | ⟨.send request, answer⟩ =>
    if l.reconnected ∧ l.calls.getLast?.map Call.request = some request then
      ⟨l.calls.dropLast ++ [⟨request, answer⟩], false⟩
    else ⟨l.calls ++ [⟨request, answer⟩], false⟩
  | ⟨.reconnect, .ok _⟩ => { l with reconnected := true }
  | ⟨.reconnect, .error e⟩ =>
    ⟨l.calls.modifyLast fun call => { call with answer := .error e }, false⟩
  | _ => l

/-- A request of its own is a call of its own. -/
lemma add_send (calls : List Call) (request : Request) (answer : (Action.send request).Answer) :
    add ⟨calls, false⟩ ⟨.send request, answer⟩ = ⟨calls ++ [⟨request, answer⟩], false⟩ := by
  simp [add]

/-- A request that is sent once more is the same call. -/
lemma add_again (calls : List Call) (request : Request)
    (answer : Except TransportError Response) (answer' : (Action.send request).Answer) :
    add ⟨calls ++ [⟨request, answer⟩], true⟩ ⟨.send request, answer'⟩ =
      ⟨calls ++ [⟨request, answer'⟩], false⟩ := by
  simp [add]

lemma add_lost (calls : List Call) (call : Call) (e : TransportError) :
    add ⟨calls ++ [call], false⟩ ⟨.reconnect, Except.error e⟩ =
      ⟨calls ++ [{ call with answer := .error e }], false⟩ := by
  simp [add, List.modifyLast_concat]

end Ledger

/-- The calls of some turns. -/
def callsOf (turns : List Turn) : List Call :=
  (turns.foldl Ledger.add {}).calls

/-- Whatever the answers are, a program ends with a ledger and a value as said. -/
def Program.Ensures (post : Ledger → α → Prop) : Ledger → Program σ α → Prop
  | l, .done value => post l value
  | l, .ask _ action resume => ∀ answer, Ensures post (l.add ⟨action, answer⟩) (resume answer)

namespace Program

variable {post : Ledger → α → Prop} {l : Ledger}

lemma Ensures.mono {post' : Ledger → α → Prop} {p : Program σ α} (h : p.Ensures post l)
    (hpost : ∀ l value, post l value → post' l value) : p.Ensures post' l := by
  induction p generalizing l with
  | done value => exact hpost l value h
  | ask state action resume ih => exact fun answer => ih answer (h answer)

lemma Ensures.bind {post : Ledger → β → Prop} {p : Program σ α} {f : α → Program σ β}
    (h : p.Ensures (fun l value => (f value).Ensures post l) l) : (p >>= f).Ensures post l := by
  induction p generalizing l with
  | done value => exact h
  | ask state action resume ih => exact fun answer => ih answer (h answer)

/-- What a program ensures holds against all surroundings. -/
theorem Ensures.against {p : Program σ α} (h : p.Ensures post l)
    (reply : List Turn → (action : Action) → action.Answer) (past : List Turn) :
    post ((p.against reply past).1.foldl Ledger.add l) (p.against reply past).2 := by
  induction p generalizing l past with
  | done value => exact h
  | ask state action resume ih => exact ih _ (h _) _

end Program

namespace Session

/-- Whatever the answers are, a session ends with a value, calls and a link as said. -/
def Ensures (s : Session σ α) (post : α → List Call → Link σ → Prop) (calls : List Call)
    (link : Link σ) : Prop :=
  (s.run link).Ensures (fun l out => l.reconnected = false ∧ post out.1 l.calls out.2)
    ⟨calls, false⟩

variable {calls : List Call} {link : Link σ} {post : α → List Call → Link σ → Prop}

lemma Ensures.mono {s : Session σ α} {post' : α → List Call → Link σ → Prop}
    (h : s.Ensures post calls link)
    (hpost : ∀ value calls link, post value calls link → post' value calls link) :
    s.Ensures post' calls link :=
  Program.Ensures.mono h fun l out hout => ⟨hout.1, hpost out.1 l.calls out.2 hout.2⟩

lemma ensures_pure {value : α} (h : post value calls link) :
    (pure value : Session σ α).Ensures post calls link := ⟨rfl, h⟩

lemma ensures_bind {s : Session σ α} {f : α → Session σ β} {post : β → List Call → Link σ → Prop}
    (h : s.Ensures (fun value => (f value).Ensures post) calls link) :
    (s >>= f).Ensures post calls link := by
  refine Program.Ensures.bind (Program.Ensures.mono h ?_)
  rintro ⟨calls, reconnected⟩ ⟨value, link⟩ ⟨rfl, h⟩
  exact h

lemma ensures_owner {post : σ → List Call → Link σ → Prop} (h : post link.owner calls link) :
    owner.Ensures post calls link := ⟨rfl, h⟩

lemma ensures_update {f : σ → σ} {post : Unit → List Call → Link σ → Prop}
    (h : post () calls { link with owner := f link.owner }) :
    (update f).Ensures post calls link := ⟨rfl, h⟩

lemma ensures_ask {action : Action} {post : action.Answer → List Call → Link σ → Prop}
    (hlocal : action.IsLocal) (h : ∀ answer, post answer calls link) :
    (ask action).Ensures post calls link := by
  intro answer
  cases action with
  | send | reconnect => exact hlocal.elim
  | readFile | clock | note => exact ⟨rfl, h answer⟩

/-- What is ensured against any answers is a logic, in which nobody looks. -/
lemma ensures_logic : Logic (Ensures (σ := σ)) fun _ _ => True where
  holds_mono := Ensures.mono
  holds_pure := ensures_pure
  holds_bind := ensures_bind
  holds_owner := ensures_owner
  holds_update := ensures_update
  holds_ask hlocal _ := ensures_ask hlocal

lemma ensures_ask_send {request : Request}
    {post : Except TransportError Response → List Call → Link σ → Prop}
    (h : ∀ answer, post answer (calls ++ [⟨request, answer⟩]) link) :
    Ensures (ask (.send request)) post calls link := by
  intro answer
  rw [Ledger.add_send]
  exact ⟨rfl, h answer⟩

/-- A request makes one call, however often it is sent. -/
lemma ensures_send {request : Request}
    {post : Except TransportError Response → List Call → Link σ → Prop}
    (h : ∀ answer n, post answer (calls ++ [⟨request, answer⟩]) { link with reconnects := n }) :
    (send request).Ensures post calls link := by
  refine ensures_bind (ensures_ask_send fun first => ?_)
  cases first with
  | ok response => exact ensures_pure (h _ link.reconnects)
  | error e =>
    simp only
    split
    · refine ensures_bind (ensures_logic.holds_note trivial ?_ _ _ _)
      intro again
      cases again with
      | error e' =>
        rw [Ledger.add_lost]
        exact ⟨rfl, h _ link.reconnects⟩
      | ok _ =>
        intro second
        have hagain := Ledger.add_again calls request (.error e) second
        show Program.Ensures _ (Ledger.add ⟨_, true⟩ ⟨.send request, second⟩) _
        rw [hagain]
        exact ⟨rfl, h _ _⟩
    · exact ensures_pure (h _ link.reconnects)

/-- An operation makes one call. -/
lemma ensures_perform {operation : Operation α}
    {post : Except StoreError α → List Call → Link σ → Prop}
    (h : ∀ answer n, post (operation.outcome answer) (calls ++ [⟨operation.request, answer⟩])
      { link with reconnects := n }) :
    (perform operation).Ensures post calls link :=
  ensures_logic.holds_perform (ensures_send h)

end Session

end CouchLoad
