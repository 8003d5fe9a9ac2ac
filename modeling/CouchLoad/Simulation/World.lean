import CouchLoad.Load.Run
import CouchLoad.Log.Filter

/-!
# Simulated surroundings

A world holds all that the programs of a run can ask for: something that answers requests, files,
randomness. Whatever happens in it is a function of its state, so a run in a world can be looked
at and reasoned about. Time stands still.
-/

namespace CouchLoad

open Entropy

/-- The surroundings of a run, around a server of type `ω`. -/
structure World (ω : Type) where
  server : ω
  files : Files
  /-- Which events are kept. -/
  shown : LogFilter := .upTo .trace
  /-- The events that were kept, oldest first. -/
  events : Array Event := #[]
  /-- The sources of randomness that are there to be given out. -/
  sources : Nat → Source
  /-- The number of sources that have been given out. -/
  sourcesTaken : Nat := 0
  /-- In which order workers take turns, for each team of them. -/
  schedules : List (List Nat) := []

/-- What answers requests in a world. -/
structure Backend (ω : Type) where
  connect : StateM (World ω) (Except TransportError Unit)
  send : Request → StateM (World ω) (Except TransportError Response)
  reconnect : StateM (World ω) (Except TransportError Unit)

namespace World

variable {ω : Type}

/-- Add an event, if it is kept. -/
def note (w : World ω) (e : Event) : World ω :=
  if w.shown.admits e then { w with events := w.events.push e } else w

/-- The next source of randomness. -/
def newSource : StateM (World ω) Source := fun w =>
  (w.sources w.sourcesTaken, { w with sourcesTaken := w.sourcesTaken + 1 })

/-- The order for the next team. -/
def nextSchedule : StateM (World ω) (List Nat) := fun w =>
  match w.schedules with
  | [] => ([], w)
  | schedule :: rest => (schedule, { w with schedules := rest })

end World

namespace Backend

variable {ω : Type} (b : Backend ω)

/-- Do what a program asks for. -/
def perform : (action : Action) → StateM (World ω) action.Answer
  | .send request => b.send request
  | .reconnect => b.reconnect
  | .readFile path => fun w => (w.files path, w)
  | .clock => fun w => ((0 : Nat), w)
  | .note event => fun w => ((), w.note event)

/-- What carries a run out in a world. -/
def host : Host Unit (StateM (World ω)) where
  connect := b.connect
  perform _ := b.perform
  newSource := World.newSource
  together pool := do
    let schedule ← World.nextSchedule
    pool.run (fun _ => b.perform) schedule

/-- Carry out a session that has come to some state. -/
def session {σ α : Type} (link : Link σ) (s : Session σ α) : StateM (World ω) (α × Link σ) :=
  (s.run link).run b.perform

/-- Carry out a worker alone, over a connection of its own. -/
def work (w : Worker) : StateM (World ω) (Except TransportError Report) := do
  match ← b.connect with
  | .error e => return .error e
  | .ok () =>
    let source ← World.newSource
    return .ok (← (w.program source).run b.perform)

end Backend

end CouchLoad
