import CouchLoad.Program.Session
import Mathlib.Tactic.Common

/-!
# Logics of sessions

What a session does can be said in several ways: against any answers, over one server, or beside
others that share it. A logic is what they have in common. It says what holds of a session that
starts with something besides its link, such as the calls so far or the state of a server. In every
logic the steps of sessions obey the same rules, so a rule for a loop is proved once for all.
-/

namespace CouchLoad

/-- An action that no server takes part in. -/
def Action.IsLocal : Action → Prop
  | .send _ | .reconnect => False
  | .readFile _ | .clock | .note _ => True

/-- What an operation makes of what came of its request. -/
def Operation.outcome {α : Type} (operation : Operation α) :
    Except TransportError Response → Except StoreError α
  | .ok response => operation.read response
  | .error e => .error (.transport e)

/-- A program that asks for nothing but files, and for every answer ends with a value as said. -/
def Program.ReadsFor {τ α : Type} (Q : α → Prop) : Program τ α → Prop
  | .done value => Q value
  | .ask _ action resume => (∃ path, action = .readFile path) ∧ ∀ answer, (resume answer).ReadsFor Q

namespace Program

variable {τ α β : Type} {Q : α → Prop}

lemma ReadsFor.bind {p : Program τ α} {f : α → Program τ β} {R : β → Prop} (h : p.ReadsFor Q)
    (hf : ∀ value, Q value → (f value).ReadsFor R) : (p >>= f).ReadsFor R := by
  induction p with
  | done value => exact hf value h
  | ask state action resume ih => exact ⟨h.1, fun answer => ih answer (h.2 answer)⟩

/-- Files that are asked for one after the other can have any contents. -/
lemma readFiles_readsFor (state : τ) (paths : List String) :
    (readFiles state paths).ReadsFor fun _ => True := by
  induction paths with
  | nil => trivial
  | cons path paths ih =>
    refine ReadsFor.bind (Q := fun _ => True) ⟨⟨path, rfl⟩, fun _ => trivial⟩ fun bytes _ => ?_
    exact ReadsFor.bind ih fun rest _ => trivial

end Program

namespace Session

/-- A way of saying what sessions do: `Holds` says that a session ends with a value, a rest and a
link as said, and `Shows` what may be seen of it while it waits for an answer. -/
structure Logic {σ ρ : Type}
    (Holds : {α : Type} → Session σ α → (α → ρ → Link σ → Prop) → ρ → Link σ → Prop)
    (Shows : ρ → Link σ → Prop) : Prop where
  holds_mono {α : Type} {s : Session σ α} {post post' : α → ρ → Link σ → Prop} {x : ρ}
    {link : Link σ} (h : Holds s post x link)
    (hpost : ∀ value x link, post value x link → post' value x link) : Holds s post' x link
  holds_pure {α : Type} {value : α} {post : α → ρ → Link σ → Prop} {x : ρ} {link : Link σ}
    (h : post value x link) : Holds (pure value) post x link
  holds_bind {α β : Type} {s : Session σ α} {f : α → Session σ β} {post : β → ρ → Link σ → Prop}
    {x : ρ} {link : Link σ} (h : Holds s (fun value => Holds (f value) post) x link) :
    Holds (s >>= f) post x link
  holds_owner {post : σ → ρ → Link σ → Prop} {x : ρ} {link : Link σ}
    (h : post link.owner x link) : Holds owner post x link
  holds_update {f : σ → σ} {post : Unit → ρ → Link σ → Prop} {x : ρ} {link : Link σ}
    (h : post () x { link with owner := f link.owner }) : Holds (update f) post x link
  holds_ask {action : Action} {post : action.Answer → ρ → Link σ → Prop} {x : ρ} {link : Link σ}
    (hlocal : action.IsLocal) (hshows : Shows x link) (h : ∀ answer, post answer x link) :
    Holds (ask action) post x link

namespace Logic

variable {σ ρ α : Type}
  {Holds : {α : Type} → Session σ α → (α → ρ → Link σ → Prop) → ρ → Link σ → Prop}
  {Shows : ρ → Link σ → Prop} (L : Logic Holds Shows) {x : ρ} {link : Link σ}
include L

lemma holds_note {post : Unit → ρ → Link σ → Prop} (hshows : Shows x link) (h : post () x link)
    (level : Level) (component : Component) (message : String) :
    Holds (note level component message) post x link :=
  have hask : Holds (ask (.note ⟨level, component, message⟩)) post x link :=
    L.holds_ask trivial hshows fun _ => h
  hask

lemma holds_noteAll {post : Unit → ρ → Link σ → Prop} (hshows : Shows x link)
    (h : post () x link) (component : Component) (messages : List (Level × String)) :
    Holds (noteAll component messages) post x link := by
  induction messages with
  | nil => exact L.holds_pure h
  | cons message messages ih => exact L.holds_bind (L.holds_note hshows ih _ _ _)

lemma holds_clock {post : Nat → ρ → Link σ → Prop} (hshows : Shows x link)
    (h : ∀ time, post time x link) : Holds (ask .clock) post x link :=
  L.holds_ask trivial hshows h

lemma holds_timed {s : Session σ α} {post : α × Nat → ρ → Link σ → Prop} (hshows : Shows x link)
    (h : Holds s (fun value x link => Shows x link ∧ ∀ time, post (value, time) x link) x link) :
    Holds (timed s) post x link := by
  refine L.holds_bind (L.holds_clock hshows fun started => ?_)
  refine L.holds_bind (L.holds_mono h fun value x link hvalue => ?_)
  refine L.holds_bind (L.holds_clock hvalue.1 fun ended => ?_)
  exact L.holds_pure (hvalue.2 _)

/-- An operation is carried out by sending its request. -/
lemma holds_perform {operation : Operation α} {post : Except StoreError α → ρ → Link σ → Prop}
    (h : Holds (send operation.request) (fun answer => post (operation.outcome answer)) x link) :
    Holds (perform operation) post x link := by
  refine L.holds_bind (L.holds_mono h fun answer x link hpost => ?_)
  cases answer with
  | ok response => exact L.holds_pure hpost
  | error e => exact L.holds_pure hpost

/-- A program that only reads files can be embedded everywhere. -/
lemma holds_embed {τ : Type} {p : Program τ α} {Q : α → Prop} {post : α → ρ → Link σ → Prop}
    (hshows : Shows x link) (hp : p.ReadsFor Q) (h : ∀ value, Q value → post value x link) :
    Holds (embed p) post x link := by
  induction p with
  | done value => exact L.holds_pure (h value hp)
  | ask state action resume ih =>
    obtain ⟨⟨path, rfl⟩, hresume⟩ := hp
    exact L.holds_bind (s := ask (.readFile path)) (L.holds_ask trivial hshows fun answer =>
      ih answer (hresume answer))

end Logic

end Session

end CouchLoad
