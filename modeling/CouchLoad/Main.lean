import CouchLoad.CommandLine.Command
import CouchLoad.Network.Connection
import Std.Time

/-!
# The program

Here the actions that programs ask for are carried out: requests go over the network, files are
read, events are printed, and workers run in threads of their own.
-/

namespace CouchLoad

open Entropy

/-- What is wrong with a file, from what the system says. -/
def FileFault.ofError : IO.Error → FileFault
  | .noFileOrDirectory .. => .notFound
  | .permissionDenied .. => .permissionDenied
  | .inappropriateType _ code _ => if code = 20 then .notADirectory else .isADirectory
  | e => .other (toString e)

namespace Live

/-- The bytes of a file. -/
def readPath (path : String) : IO (Except FileFault (List UInt8)) := do
  if let some fault := FileFault.ofPath? path then
    return .error fault
  try
    return .ok (← IO.FS.readBinFile path).toList
  catch e =>
    return .error (.ofError e)

/-- A source of randomness that nobody else uses. -/
def entropy : IO Source := do
  let bytes ← IO.getRandomBytes 8
  return Source.ofSeed (bytes.foldl (fun n b => 256 * n + b.toUInt64) 0)

/-- Show an event if a filter admits it. -/
def display (filter : LogFilter) (e : Event) : IO Unit := do
  if filter.admits e then
    let now ← Std.Time.Timestamp.now
    let time := (Std.Time.DateTime.ofTimestampWithZone now .UTC).toISO8601String
    IO.println s!"{time} {e.line}"

/-- Do what a program asks for, over a connection. -/
def carryOut (filter : IO.Ref LogFilter) (endpoint : Endpoint)
    (connection : Option Network.Connection) : (action : Action) → IO action.Answer
  | .send request =>
    match connection with
    | none => return .error (.disconnected "offline")
    | some c => Http.send readPath c.exchange c.server endpoint.credentials request
  | .reconnect => do
    if let some c := connection then
      display (← filter.get) (Http.reconnecting c.server)
      c.drop
    return .ok ()
  | .readFile path => readPath path
  | .clock => IO.monoNanosNow
  | .note event => do
    display (← filter.get) event

/-- Carry out workers side by side. -/
def together (perform : Network.Connection → (action : Action) → IO action.Answer)
    (pool : Pool Network.Connection (Link Progress) Report) : IO (List Report) := do
  let tasks ← pool.mapM fun (connection, p) => IO.asTask (p.run (perform connection)) .dedicated
  tasks.mapM fun task => IO.ofExcept task.get

/-- What carries out a run against a server. -/
def host (filter : IO.Ref LogFilter) (endpoint : Endpoint) : Host Network.Connection IO :=
  let perform (c : Network.Connection) := carryOut filter endpoint (some c)
  { connect := do
      match endpoint.url with
      | .error e => return .error e
      | .ok server => return .ok (← Network.Connection.new server endpoint.timeout)
    perform
    newSource := entropy
    together := together perform }

/-- The variables of the environment that are looked at. -/
def environment : IO (Table String) := do
  let names := Command.filterVariable :: Setting.all.filterMap Setting.envName?
  let found ← names.mapM fun name => do
    return (← IO.getEnv name).map (name, ·)
  return found.filterMap id

end Live

end CouchLoad

open CouchLoad in
/-- Carry the command out. -/
def main (words : List String) : IO UInt32 := do
  let found ← Live.environment
  let filter ← IO.mkRef (LogFilter.upTo .info)
  let shell : Shell Network.Connection IO :=
    { lookup := found.get?
      perform := Live.carryOut filter {} none
      newSource := Live.entropy
      select := filter.set
      host := Live.host filter }
  let exit ← Command.run shell words
  if let some text := exit.output then IO.print text
  if let some text := exit.error then IO.eprintln text
  return exit.status.toUInt32
