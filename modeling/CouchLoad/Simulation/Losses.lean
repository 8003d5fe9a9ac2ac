import CouchLoad.Server.Handle
import CouchLoad.Simulation.World

/-!
# Worlds in which answers get lost

A service has done what a request asks for before its answer is on the way. On the way the answer
may get lost: then the client has an error in its place, as it has when the body of a response
cannot be read. Which answers get lost is a function of the number of answers before them.
-/

namespace CouchLoad

/-- Something that answers requests and accepts connections. -/
structure Service (ω : Type) where
  handle : ω → Files → Request → Except TransportError Response × ω
  reconnect : ω → ω

/-- The server in memory as a service. -/
def Server.service : Service Server :=
  ⟨Server.handle, Server.reconnect⟩

/-- The state of a service at the other end of a line. -/
structure Line (ω : Type) where
  service : ω
  /-- The number of answers that have been on the way. -/
  answers : Nat := 0

/-- How many answers arrive one after the other, from the one with a given number on and up to a
limit. -/
def arriving (lost : Nat → Option TransportError) (number : Nat) : Nat → Nat
  | 0 => 0
  | limit + 1 => if lost number = none then arriving lost (number + 1) limit + 1 else 0

namespace Service

variable {ω : Type} (v : Service ω) (lost : Nat → Option TransportError)

/-- Send a request. Its answer arrives, or it gets lost; a request that gets no answer is not
counted. -/
def send (line : Line ω) (files : Files) (r : Request) :
    Except TransportError Response × Line ω :=
  match v.handle line.service files r with
  | (.ok response, service) =>
    let answer := match lost line.answers with
      | none => .ok response
      | some e => .error e
    (answer, ⟨service, line.answers + 1⟩)
  | (.error e, service) => (.error e, { line with service })

/-- Replace the line by a new one. -/
def relink (line : Line ω) : Line ω :=
  { line with service := v.reconnect line.service }

/-- Worlds with a service whose answers may get lost. -/
def lossy : Backend (Line ω) where
  connect := pure (.ok ())
  send request := fun w =>
    let (answer, server) := v.send lost w.server w.files request
    (answer, { w with server })
  reconnect := fun w => (.ok (), { w with server := v.relink w.server })

end Service

end CouchLoad
