import CouchLoad.Simulation.World

/-!
# Recorded runs

A run can be carried out so that everything that is sent is written down: over which connection,
which request, and what came of it. Connections are numbered in the order in which they are opened,
so the connection of the run itself has the number 0, and those of workers have other numbers.
-/

namespace CouchLoad

/-- A request that was sent over a connection, and what came of it. -/
structure Sending where
  connection : Nat
  request : Request
  answer : Except TransportError Response

/-- What is written down. -/
structure Record where
  /-- The number of connections that have been opened. -/
  opened : Nat := 0
  /-- Everything that was sent, in its order. -/
  sent : List Sending := []

/-- Add an action over a connection and its answer. -/
def Record.add (r : Record) (connection : Nat) : (action : Action) → action.Answer → Record
  | .send request, answer => { r with sent := r.sent ++ [⟨connection, request, answer⟩] }
  | _, _ => r

/-- What happens in a world and is written down. -/
abbrev Recording (ω : Type) := StateT Record (StateM (World ω))

namespace Backend

variable {ω : Type} (b : Backend ω)

/-- Open a connection. -/
def recordConnect : Recording ω (Except TransportError Nat) := do
  match ← (b.connect : StateM (World ω) _) with
  | .error e => return .error e
  | .ok () =>
    let r ← getThe Record
    set { r with opened := r.opened + 1 }
    return .ok r.opened

/-- Do what a program asks for, and write it down. -/
def recordPerform (connection : Nat) (action : Action) : Recording ω action.Answer := do
  let answer ← (b.perform action : StateM (World ω) _)
  modifyThe Record fun r => r.add connection action answer
  return answer

/-- What carries a run out in a world and writes it down. -/
def recorder : Host Nat (Recording ω) where
  connect := b.recordConnect
  perform := b.recordPerform
  newSource := (World.newSource : StateM (World ω) _)
  together pool := do
    let schedule ← (World.nextSchedule : StateM (World ω) _)
    pool.run b.recordPerform schedule

/-- Everything that a run sends. -/
def sent (c : Config) (w : World ω) : List Sending :=
  (((Run.execute b.recorder c).run {}).run w).1.2.sent

end Backend

end CouchLoad
