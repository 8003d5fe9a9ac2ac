import CouchLoad.Simulation.World

/-!
# Runs whose connections are watched

A run can be carried out so that it is known which of its connections have been replaced by new
ones, and how often. Connections are numbered in the order in which they are opened, so the
connection of the run itself has the number 0, and those of workers have other numbers.
-/

namespace CouchLoad

/-- The connections of a run. -/
structure Connections where
  /-- The number of connections that have been opened. -/
  opened : Nat := 0
  /-- The connections that have been replaced, in the order in which this happened. -/
  replaced : List Nat := []

/-- Whether an action has replaced the connection. -/
def Action.replaces : (action : Action) → action.Answer → Bool
  | .reconnect, .ok _ => true
  | _, _ => false

/-- Add an action over a connection and its answer. -/
def Connections.add (cs : Connections) (connection : Nat) (action : Action)
    (answer : action.Answer) : Connections :=
  if action.replaces answer then { cs with replaced := cs.replaced ++ [connection] } else cs

/-- What happens in a world while the connections are watched. -/
abbrev Watching (ω : Type) := StateT Connections (StateM (World ω))

namespace Backend

variable {ω : Type} (b : Backend ω)

/-- Open a connection. -/
def watchConnect : Watching ω (Except TransportError Nat) := do
  match ← (b.connect : StateM (World ω) _) with
  | .error e => return .error e
  | .ok () =>
    let cs ← getThe Connections
    set { cs with opened := cs.opened + 1 }
    return .ok cs.opened

/-- Do what a program asks for, and watch its connection. -/
def watchPerform (connection : Nat) (action : Action) : Watching ω action.Answer := do
  let answer ← (b.perform action : StateM (World ω) _)
  modifyThe Connections fun cs => cs.add connection action answer
  return answer

/-- What carries a run out in a world and watches the connections. -/
def watcher : Host Nat (Watching ω) where
  connect := b.watchConnect
  perform := b.watchPerform
  newSource := (World.newSource : StateM (World ω) _)
  together pool := do
    let schedule ← (World.nextSchedule : StateM (World ω) _)
    pool.run b.watchPerform schedule

/-- A run, and its connections at the end. -/
def watched (c : Config) (w : World ω) :
    (Except TransportError Summary × Connections) × World ω :=
  ((Run.execute b.watcher c).run {}).run w

/-- The connections that a run replaces. -/
def replaced (c : Config) (w : World ω) : List Nat :=
  (b.watched c w).1.2.replaced

end Backend

end CouchLoad
