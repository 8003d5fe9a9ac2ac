import CouchLoad.Server.Handle
import CouchLoad.Simulation.World

/-!
# Worlds with a server in memory

All connections share the server, and without outages it can always be reached. With outages,
before any request failures may be injected into the server in memory: then the next requests are
dropped. When this happens is a function of the number of requests that have come in. The log of
the server does not tell which requests were dropped; this can be found out from the outages.
-/

namespace CouchLoad

namespace Server

/-- Worlds with a server in memory. -/
def backend : Backend Server where
  connect := pure (.ok ())
  send request := fun w =>
    let (answer, server) := w.server.handle w.files request
    (answer, { w with server })
  reconnect := fun w => (.ok (), { w with server := w.server.reconnect })

/-- Failures may be injected before the next request. -/
def interrupt (outages : Nat → Option Nat) (s : Server) : Server :=
  match outages s.requests.size with
  | some count => s.failNext count
  | none => s

/-- Worlds with a server in memory that has outages. -/
def unsteady (outages : Nat → Option Nat) : Backend Server where
  connect := pure (.ok ())
  send request := fun w =>
    let (answer, server) := (w.server.interrupt outages).handle w.files request
    (answer, { w with server })
  reconnect := fun w => (.ok (), { w with server := w.server.reconnect })

/-- How many requests are still to be dropped after some requests, of which the first one has the
given number. -/
def stillPending (outages : Nat → Option Nat) (number pending : Nat) : List Request → Nat
  | [] => pending
  | _ :: rs => stillPending outages (number + 1) ((outages number).getD pending - 1) rs

/-- The requests that are not dropped. -/
def passed (outages : Nat → Option Nat) (number pending : Nat) : List Request → List Request
  | [] => []
  | r :: rs =>
    let pending := (outages number).getD pending
    let rest := passed outages (number + 1) (pending - 1) rs
    if pending = 0 then r :: rest else rest

/-- How many requests are to be dropped when some more have come in, of which the first one has the
given number. -/
def pendingAt (outages : Nat → Option Nat) (number pending : Nat) : Nat → Nat
  | 0 => (outages number).getD pending
  | n + 1 => pendingAt outages (number + 1) ((outages number).getD pending - 1) n

/-- From now on, the request after one that is dropped gets through. So if every request that is
dropped is sent again, first attempts are dropped but no second ones. -/
def RetriesPass (outages : Nat → Option Nat) (s : Server) : Prop :=
  ∀ n, pendingAt outages s.requests.size s.pendingFailures n ≠ 0 →
    pendingAt outages s.requests.size s.pendingFailures (n + 1) = 0

end Server

/-- The revisions that a request makes up: those in a bulk write without new edits. -/
def Request.forged (r : Request) : List String :=
  match Server.Command.of? r with
  | some (.writeBulk _) =>
    let body := Server.jsonBody r
    if (body.field "new_edits").bool?.getD true then []
    else ((body.field "docs").array?.getD []).filterMap fun entry => (entry.field "_rev").string?
  | _ => []

end CouchLoad
