import CouchLoad.Couch.Operation
import CouchLoad.Program.Basic

/-!
# Sessions

A session talks to the server over one connection. A request that fails at the connection is sent
once more over a new one; how often that has happened is counted.
-/

namespace CouchLoad

/-- The state of a session: the reconnects so far, and what the owner of the session keeps. -/
structure Link (σ : Type) where
  reconnects : Nat := 0
  owner : σ
  deriving DecidableEq, Repr

/-- A program that talks over one connection and has a state of its own. -/
abbrev Session (σ : Type) := StateT (Link σ) (Program (Link σ))

namespace Session

variable {σ α : Type}

/-- Ask for one thing. -/
def ask (action : Action) : Session σ action.Answer := fun link =>
  .ask link action fun answer => .done (answer, link)

/-- Run a program that does not know of the session. -/
def embed {τ : Type} (p : Program τ α) : Session σ α := fun link => do
  return (← p.showing link, link)

/-- What the owner keeps. -/
def owner : Session σ σ := do
  return (← get).owner

/-- Change what the owner keeps. -/
def update (f : σ → σ) : Session σ Unit :=
  modify fun link => { link with owner := f link.owner }

/-- Take note of an event. -/
def note (level : Level) (component : Component) (message : String) : Session σ Unit :=
  ask (.note ⟨level, component, message⟩)

/-- Take note of events, one after the other. -/
def noteAll (component : Component) : List (Level × String) → Session σ Unit
  | [] => pure ()
  | (level, message) :: rest => do
    note level component message
    noteAll component rest

/-- Do something and tell how long it took. -/
def timed (s : Session σ α) : Session σ (α × Nat) := do
  let started : Nat ← ask .clock
  let value ← s
  let ended : Nat ← ask .clock
  return (value, ended - started)

/-- Send a request. Where a new connection may help, it is tried once. -/
def send (request : Request) : Session σ (Except TransportError Response) := do
  let first : Except TransportError Response ← ask (.send request)
  match first with
  | .ok response => return .ok response
  | .error e =>
    if e.isRetryable then
      note .warn .store s!"{request.describe} failed ({e.message}); reconnecting"
      let again : Except TransportError Unit ← ask .reconnect
      match again with
      | .error e => return .error e
      | .ok () =>
        modify fun link => { link with reconnects := link.reconnects + 1 }
        ask (.send request)
    else return .error e

/-- Carry an operation out. -/
def perform (operation : Operation α) : Session σ (Except StoreError α) := do
  match ← send operation.request with
  | .ok response => return operation.read response
  | .error e => return .error (.transport e)

end Session

end CouchLoad
