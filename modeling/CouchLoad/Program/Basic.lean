import CouchLoad.Couch.Error
import CouchLoad.Couch.Response
import CouchLoad.Log.Event

/-!
# Programs

A program is what one party of a run does, cut into single actions: it asks its surroundings for
one thing at a time and goes on with the answer. At every action it shows its own state, so that
a run can be looked at between any two actions. What carries the actions out is not part of the
program: it may be a network, or a server in memory.
-/

namespace CouchLoad

/-- What a program can ask for. -/
inductive Action where
  /-- Send a request over the connection of the program. -/
  | send (request : Request)
  /-- Replace the connection by a new one. -/
  | reconnect
  | readFile (path : String)
  /-- Tell the time, in nanoseconds. -/
  | clock
  /-- Take note of an event. -/
  | note (event : Event)
  deriving DecidableEq

/-- What an action is answered by. -/
def Action.Answer : Action → Type
  | .send _ => Except TransportError Response
  | .reconnect => Except TransportError Unit
  | .readFile _ => Except FileFault (List UInt8)
  | .clock => Nat
  | .note _ => Unit

/-- A program that shows states of type `σ` and ends with a value of type `α`. -/
inductive Program (σ α : Type) where
  | done (value : α)
  | ask (state : σ) (action : Action) (resume : action.Answer → Program σ α)

namespace Program

variable {σ τ α β : Type}

/-- Go on with another program. -/
def bind : Program σ α → (α → Program σ β) → Program σ β
  | done value, f => f value
  | ask state action resume, f => ask state action fun answer => (resume answer).bind f

instance : Monad (Program σ) where
  pure := done
  bind := bind

@[simp] theorem pure_eq (value : α) : (pure value : Program σ α) = done value := rfl

@[simp] theorem done_bind (value : α) (f : α → Program σ β) : done value >>= f = f value := rfl

@[simp] theorem ask_bind (state : σ) (action : Action) (resume : action.Answer → Program σ α)
    (f : α → Program σ β) :
    ask state action resume >>= f = ask state action fun answer => resume answer >>= f := rfl

/-- Going on with nothing changes nothing. -/
theorem bind_done (p : Program σ α) : p.bind done = p := by
  induction p with
  | done => rfl
  | ask state action resume ih => exact congrArg (ask state action) (funext ih)

/-- It does not matter in which order three programs are put together. -/
theorem bind_assoc {γ : Type} (p : Program σ α) (f : α → Program σ β) (g : β → Program σ γ) :
    (p.bind f).bind g = p.bind fun value => (f value).bind g := by
  induction p with
  | done => rfl
  | ask state action resume ih => exact congrArg (ask state action) (funext ih)

instance : LawfulMonad (Program σ) :=
  LawfulMonad.mk' (Program σ) bind_done (fun _ _ => rfl) bind_assoc

/-- Ask for one thing, showing a state. -/
def request (state : σ) (action : Action) : Program σ action.Answer :=
  ask state action done

/-- The same program, showing another state at every action. -/
def showing (state : τ) : Program σ α → Program τ α
  | done value => done value
  | ask _ action resume => ask state action fun answer => (resume answer).showing state

/-- Carry a program out. -/
def run {m : Type → Type} [Monad m] (perform : (action : Action) → m action.Answer) :
    Program σ α → m α
  | done value => pure value
  | ask _ action resume => do
    let answer ← perform action
    (resume answer).run perform

/-- Carrying out two programs one after the other is carrying out their composition. -/
theorem run_bind {m : Type → Type} [Monad m] [LawfulMonad m]
    (perform : (action : Action) → m action.Answer) (p : Program σ α) (f : α → Program σ β) :
    (p >>= f).run perform = p.run perform >>= fun value => (f value).run perform := by
  induction p with
  | done => simp [run]
  | ask s a k ih => simp [run, ih]

/-! ### Reading files -/

/-- Ask for the bytes of a file. -/
def readFile (state : σ) (path : String) : Program σ (Except FileFault (List UInt8)) :=
  request state (.readFile path)

/-- Ask for some files and answer with what can be read then. -/
def readFiles (state : σ) : List String → Program σ Files
  | [] => pure fun _ => .error .notFound
  | path :: paths => do
    let bytes ← readFile state path
    let rest ← readFiles state paths
    return fun wanted => if wanted = path then bytes else rest wanted

/-- What actions are answered by where there are files but no connection and no clock. -/
def offlineAnswer (files : Files) : (action : Action) → action.Answer
  | .send _ | .reconnect => Except.error (TransportError.disconnected "offline")
  | .readFile path => files path
  | .clock => (0 : Nat)
  | .note _ => ()

end Program

end CouchLoad
