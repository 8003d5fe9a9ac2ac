import CouchLoad.Program.Basic

/-!
# Programs side by side

Programs that run at the same time take turns, one action at a time. In which order they do is a
schedule: a list of places of programs in the pool. When the schedule is used up, the programs
finish one after the other.
-/

namespace CouchLoad

variable {m : Type → Type} [Monad m] {κ σ α : Type}

/-- The first action of a program, and what is left of the program then. -/
def Program.step (perform : (action : Action) → m action.Answer) :
    Program σ α → m (Program σ α)
  | .done value => pure (.done value)
  | .ask _ action resume => do
    let answer ← perform action
    return resume answer

/-- Programs, each with what it works on. -/
abbrev Pool (κ σ α : Type) := List (κ × Program σ α)

namespace Pool

variable (perform : κ → (action : Action) → m action.Answer)

/-- One action of the program at a place. -/
def turn (pool : Pool κ σ α) (place : Nat) : m (Pool κ σ α) :=
  match pool[place]? with
  | none => pure pool
  | some (key, p) => do
    let p ← p.step (perform key)
    return pool.set place (key, p)

/-- Take turns as a schedule says. -/
def advance (pool : Pool κ σ α) : List Nat → m (Pool κ σ α)
  | [] => pure pool
  | place :: schedule => do
    let pool ← pool.turn perform place
    pool.advance schedule

/-- Carry the programs out one after the other. -/
def finish : Pool κ σ α → m (List α)
  | [] => pure []
  | (key, p) :: pool => do
    let value ← p.run (perform key)
    let values ← finish pool
    return value :: values

/-- Carry out all programs, by a schedule as long as it lasts. -/
def run (pool : Pool κ σ α) (schedule : List Nat) : m (List α) := do
  let pool ← pool.advance perform schedule
  pool.finish perform

end Pool

end CouchLoad
