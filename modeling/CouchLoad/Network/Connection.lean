import CouchLoad.Http.Exchange
import CouchLoad.Http.Reply
import Std.Async.DNS
import Std.Async.Select
import Std.Async.TCP
import Std.Async.Timer

/-!
# Connections

A connection keeps at most one open socket, which is used as long as the server does not close
it. Every exchange has a limited time.
-/

namespace CouchLoad.Network

open Std.Async Std.Net

/-- A connection to a server. -/
structure Connection where
  server : Url
  /-- The time for one exchange, in seconds. -/
  timeout : Nat
  socket : IO.Ref (Option TCP.Socket.Client)

namespace Connection

/-- A connection without a socket yet. -/
def new (server : Url) (timeout : Nat) : IO Connection := do
  return { server, timeout, socket := ← IO.mkRef none }

/-- Forget the socket. -/
def drop (c : Connection) : IO Unit :=
  c.socket.set none

/-- The name of the host as it is looked up. -/
def hostName (c : Connection) : String :=
  String.ofList (c.server.host.filter fun ch => ch ≠ '[' && ch ≠ ']')

/-- The address of a host and a port. -/
def address (port : Nat) : IPAddr → SocketAddress
  | .v4 addr => .v4 ⟨addr, port.toUInt16⟩
  | .v6 addr => .v6 ⟨addr, port.toUInt16⟩

/-- Open a socket, trying the addresses of the host one after the other. -/
def openSocket (c : Connection) : Async TCP.Socket.Client := do
  let port := c.server.port.getD Url.defaultPort
  let mut reason := "no address"
  for found in ← DNS.getAddrInfo c.hostName (toString port) do
    let socket ← TCP.Socket.Client.mk
    try
      socket.connect (address port found)
      socket.noDelay
      return socket
    catch e =>
      reason := toString e
  throw (IO.userError reason)

/-- Receive some bytes; none is left at the end of the stream. Waiting ends at a deadline, in
milliseconds. -/
def receiveSome (socket : TCP.Socket.Client) (deadline : Nat) :
    Async (Except String (Option ByteArray)) := do
  let now ← IO.monoMsNow
  let expiry ← Selector.sleep (.ofNat (deadline - now))
  Selectable.one #[
    .case (socket.recvSelector 65536) fun data => return .ok data,
    .case expiry fun () => return .error "operation timed out"]

/-- Receive bytes until the reply is complete. -/
partial def receive (socket : TCP.Socket.Client) (deadline : Nat) (before : List UInt8) :
    Async (Except String Http.Reply) := do
  match ← receiveSome socket deadline with
  | .error reason => return .error reason
  | .ok data =>
    let bytes := before ++ (data.map ByteArray.toList).getD []
    match Http.Reception.ofBytes data.isNone bytes with
    | .complete reply => return .ok reply
    | .malformed => return .error "invalid reply"
    | .incomplete => receive socket deadline bytes

/-- Send a message and receive its reply. -/
def converse (c : Connection) (message : Http.Message) : Async (Except String Http.Reply) := do
  let deadline := (← IO.monoMsNow) + 1000 * c.timeout
  let socket ← match ← c.socket.get with
    | some socket => pure socket
    | none => c.openSocket
  c.drop
  socket.send (ByteArray.mk message.bytes.toArray)
  let answer ← receive socket deadline []
  if let .ok reply := answer then
    if reply.keepsOpen then c.socket.set (some socket)
  return answer

/-- Exchange a message for a status and a body. -/
def exchange (c : Connection) (message : Http.Message) :
    IO (Except String (Nat × List UInt8)) := do
  try
    let answer ← (c.converse message).block
    return answer.map fun reply => (reply.status, reply.body)
  catch e =>
    return .error (toString e)

end Connection

end CouchLoad.Network
