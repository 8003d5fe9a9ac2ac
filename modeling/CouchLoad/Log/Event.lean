import CouchLoad.Text.Numeral

/-!
# Log events

An event is shown in a line. Its message may hold texts from outside, so the characters that
could steer a terminal are escaped there.
-/

namespace CouchLoad

/-- How grave an event is. -/
inductive Level where
  | error
  | warn
  | info
  | debug
  | trace
  deriving DecidableEq, Repr

namespace Level

/-- All levels, the gravest first. -/
def all : List Level :=
  [error, warn, info, debug, trace]

/-- The name of a level. -/
def name : Level → String
  | error => "ERROR"
  | warn => "WARN"
  | info => "INFO"
  | debug => "DEBUG"
  | trace => "TRACE"

/-- The number of a level; graver levels have lower numbers. -/
def rank : Level → Nat
  | error => 1
  | warn => 2
  | info => 3
  | debug => 4
  | trace => 5

end Level

/-- The part of the program that an event comes from. -/
inductive Component where
  | program
  | store
  | connection
  | worker
  | conflicts
  | populator
  deriving DecidableEq, Repr

/-- The name of a component, by which its events can be selected. -/
def Component.name : Component → String
  | program => "seatoncouch"
  | store => "couch_client::store"
  | connection => "couch_client::http"
  | worker => "loadtest_populate_couchdb::worker"
  | conflicts => "loadtest_populate_couchdb::conflicts"
  | populator => "loadtest_populate_couchdb::populator"

/-- Something worth telling. -/
structure Event where
  level : Level
  component : Component
  message : String
  deriving DecidableEq, Repr

/-- How a character of a message is shown. The characters bell, backspace, form feed, escape and
delete and the controls above ASCII are escaped, and all others stand for themselves. -/
def shownChar (c : Char) : List Char :=
  if [0x07, 0x08, 0x0c, 0x1b, 0x7f].contains c.toNat then ['\\', 'x'] ++ Text.hex 2 c.toNat
  else if 0x80 ≤ c.toNat && c.toNat ≤ 0x9f then
    ['\\', 'u', '{'] ++ Text.hex 1 c.toNat ++ ['}']
  else [c]

/-- The line that shows an event. -/
def Event.line (e : Event) : String :=
  let message := String.ofList (e.message.toList.flatMap shownChar)
  s!"{e.level.name} {e.component.name}: {message}"

end CouchLoad
