import CouchLoad.Text.Numeral

/-!
# Arguments

What a run is told from outside: settings, each of which has a value, and switches. Every setting
that nobody gives has a default.
-/

namespace CouchLoad

/-- A setting, which takes a value. -/
inductive Setting where
  | host
  | port
  | username
  | password
  | timeout
  | databases
  | firstDatabase
  | dbPrefix
  | documents
  | firstCounter
  | userPrefix
  | bulkBatch
  | revisions
  | conflicts
  | workers
  | template
  | security
  deriving DecidableEq, Repr

namespace Setting

/-- All settings. -/
def all : List Setting :=
  [host, port, username, password, timeout, databases, firstDatabase, dbPrefix, documents,
    firstCounter, userPrefix, bulkBatch, revisions, conflicts, workers, template, security]

/-- The name of a setting on the command line, where two hyphens stand in front of it. -/
def name : Setting → String
  | host => "host"
  | port => "port"
  | username => "http-basic-username"
  | password => "http-basic-password"
  | timeout => "request-timeout-secs"
  | databases => "dbs"
  | firstDatabase => "db-start-id"
  | dbPrefix => "db-prefix"
  | documents => "docs"
  | firstCounter => "doc-start-id"
  | userPrefix => "user-prefix"
  | bulkBatch => "bulk-batch"
  | revisions => "revs-per-doc"
  | conflicts => "conflicts-per-doc"
  | workers => "threads"
  | template => "doc-tpl"
  | security => "sec-obj"

/-- The variable of the environment that gives a setting where the command line does not. -/
def envName? : Setting → Option String
  | host => some "COUCH_HOST"
  | port => some "COUCH_PORT"
  | username => some "COUCH_USERNAME"
  | password => some "COUCH_PASSWORD"
  | _ => none

/-- What a setting does. -/
def help : Setting → String
  | host => "CouchDB host"
  | port => "CouchDB port"
  | username => "Username for HTTP basic authentication"
  | password => "Password for HTTP basic authentication"
  | timeout => "Timeout for a single HTTP request, in seconds"
  | databases => "Number of databases to create"
  | firstDatabase => "Number appended to the prefix of the first database (when --dbs > 1)"
  | dbPrefix => "Database name prefix; with a single database this is the full name"
  | documents => "Number of documents to create per database"
  | firstCounter => "Value of #\x7bdoc_id_counter\x7d for the first document"
  | userPrefix => "Value of #\x7buser_prefix\x7d"
  | bulkBatch => "Documents per _bulk_docs request; 1 writes each document on its own"
  | revisions => "Number of revisions to write for each document"
  | conflicts =>
    "Number of conflicting revisions to add to each document (needs --bulk-batch > 1)"
  | workers => "Number of parallel upload workers"
  | template => "Document template file"
  | security => "JSON file holding the security object to set on every database"

/-- A setting as messages show it: its name and the mark of its value. -/
def display (s : Setting) : String :=
  let mark := String.ofList (s.name.toList.map fun c => if c = '-' then '_' else c.toUpper)
  s!"--{s.name} <{mark}>"

end Setting

/-- A switch, which takes no value. -/
inductive Switch where
  | recreate
  | times
  | debug
  | help
  deriving DecidableEq, Repr

namespace Switch

/-- All switches. -/
def all : List Switch :=
  [recreate, times, debug, help]

/-- The name of a switch on the command line, where two hyphens stand in front of it. -/
def name : Switch → String
  | recreate => "recreate-dbs"
  | times => "times"
  | debug => "debug"
  | help => "help"

/-- What a switch does. -/
def describe : Switch → String
  | recreate => "Delete each database before creating it"
  | times => "Report the response time of every write and the averages at the end"
  | debug => "Enable debug logging (RUST_LOG takes precedence)"
  | help => "Print help"

/-- A switch as messages show it. -/
def display (s : Switch) : String :=
  "--" ++ s.name

end Switch

/-- The values of all settings and switches. -/
structure Arguments where
  host : String := "localhost"
  port : Nat := 5984
  username : Option String := none
  password : Option String := none
  timeout : Nat := 60
  databases : UInt64 := 1
  firstDatabase : UInt64 := 1
  dbPrefix : String := "testdb"
  documents : UInt64 := 100
  firstCounter : UInt64 := 1
  userPrefix : String := "user"
  bulkBatch : Nat := 1
  revisions : Nat := 1
  conflicts : Nat := 0
  workers : Nat := 1
  template : String := "default_doc.tpl"
  security : Option String := none
  recreate : Bool := false
  times : Bool := false
  debug : Bool := false
  deriving DecidableEq, Repr

/-- Why a text is no value of a setting. -/
inductive ValueFault where
  | empty
  | invalid
  deriving DecidableEq, Repr

namespace Arguments

open Text

/-- A count of 64 bits. -/
def readCount (value : String) : Except ValueFault Nat :=
  match parseUnsigned? 64 value.toList with
  | some n => .ok n
  | none => .error .invalid

/-- A word of 64 bits. -/
def readWord (value : String) : Except ValueFault UInt64 :=
  (readCount value).map Nat.toUInt64

/-- A number of fewer bits. It is read with a sign first, so that a negative zero counts. -/
def readSmall (bits : Nat) (value : String) : Except ValueFault Nat :=
  match parseSigned? 64 value.toList with
  | some n => if 0 ≤ n && n.toNat < Nat.pow 2 bits then .ok n.toNat else .error .invalid
  | none => .error .invalid

/-- The path of a file. -/
def readPath (value : String) : Except ValueFault String :=
  if value.isEmpty then .error .empty else .ok value

/-- Set a setting to the value that a text denotes. -/
def set (a : Arguments) (value : String) : Setting → Except ValueFault Arguments
  | .host => .ok { a with host := value }
  | .port => (readSmall 16 value).map fun n => { a with port := n }
  | .username => .ok { a with username := value }
  | .password => .ok { a with password := value }
  | .timeout => (readCount value).map fun n => { a with timeout := n }
  | .databases => (readWord value).map fun n => { a with databases := n }
  | .firstDatabase => (readWord value).map fun n => { a with firstDatabase := n }
  | .dbPrefix => .ok { a with dbPrefix := value }
  | .documents => (readWord value).map fun n => { a with documents := n }
  | .firstCounter => (readWord value).map fun n => { a with firstCounter := n }
  | .userPrefix => .ok { a with userPrefix := value }
  | .bulkBatch => (readCount value).map fun n => { a with bulkBatch := n }
  | .revisions => (readSmall 32 value).map fun n => { a with revisions := n }
  | .conflicts => (readSmall 32 value).map fun n => { a with conflicts := n }
  | .workers => (readCount value).map fun n => { a with workers := n }
  | .template => (readPath value).map fun path => { a with template := path }
  | .security => (readPath value).map fun path => { a with security := path }

/-- Turn a switch on. -/
def turnOn (a : Arguments) : Switch → Arguments
  | .recreate => { a with recreate := true }
  | .times => { a with times := true }
  | .debug => { a with debug := true }
  | .help => a

end Arguments

end CouchLoad
