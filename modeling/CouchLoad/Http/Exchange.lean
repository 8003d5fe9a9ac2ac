import CouchLoad.Couch.Error
import CouchLoad.Couch.Response
import CouchLoad.Log.Event
import CouchLoad.Text.Base64
import CouchLoad.Text.Utf8
import CouchLoad.Url.Basic

/-!
# Requests over HTTP

A request is sent to the URL that its path and its query make of the URL of the server. The bytes
of its body are got first: a file that cannot be opened is known before anything is sent.
-/

namespace CouchLoad.Http

/-- A name and perhaps a password. -/
structure Credentials where
  username : String
  password : Option String
  deriving DecidableEq, Repr

/-- The value of the header that carries credentials. -/
def Credentials.authorization (c : Credentials) : String :=
  let text := c.username ++ ":" ++ c.password.getD ""
  "Basic " ++ String.ofList (Text.base64Encode (Text.utf8Encode text.toList))

/-- A message to a server. -/
structure Message where
  method : Method
  server : Url
  /-- The path and the query, as they are sent. -/
  target : List Char
  contentType : Option String
  authorization : Option String
  body : List UInt8
  deriving DecidableEq

/-- The lines in front of a body, each with its end. -/
def Message.head (message : Message) : List String :=
  let header (name : String) : Option String → List String
    | some value => [s!"{name}: {value}\r\n"]
    | none => []
  [s!"{message.method.name} {String.ofList message.target} HTTP/1.1\r\n",
    s!"host: {String.ofList message.server.authority}\r\n",
    s!"content-length: {message.body.length}\r\n", "accept: */*\r\n"] ++
    header "content-type" message.contentType ++ header "authorization" message.authorization ++
    ["\r\n"]

/-- The bytes of a message. -/
def Message.bytes (message : Message) : List UInt8 :=
  message.head.flatMap (fun line => Text.utf8Encode line.toList) ++ message.body

/-- What is told when a connection is replaced by a new one. -/
def reconnecting (server : Url) : Event :=
  ⟨.debug, .connection, s!"Reconnecting to {String.ofList server.render}"⟩

variable {m : Type → Type} [Monad m]

/-- The bytes of a body, or why they cannot be got. A directory can be opened but not read. -/
def bodyBytes (readFile : String → m (Except FileFault (List UInt8))) (url : String) :
    Body → m (Except TransportError (List UInt8))
  | .empty => return .ok []
  | .json v => return .ok (Text.utf8Encode v.toText.toList)
  | .bytes bytes => return .ok bytes
  | .file path => do
    match ← readFile path with
    | .ok bytes => return .ok bytes
    | .error .isADirectory => return .error (.http url FileFault.isADirectory.message)
    | .error fault => return .error (.file path fault)

/-- Send a request. The exchange of bytes answers with a status and a body, or with the reason
why there is none. -/
def send (readFile : String → m (Except FileFault (List UInt8)))
    (exchange : Message → m (Except String (Nat × List UInt8))) (server : Url)
    (credentials : Option Credentials) (r : Request) : m (Except TransportError Response) := do
  let url := server.forRequest r
  let urlText := String.ofList url.render
  match ← bodyBytes readFile urlText r.body with
  | .error e => return .error e
  | .ok body =>
    let message : Message :=
      { method := r.method, server, target := url.target, contentType := r.contentType
        authorization := credentials.map Credentials.authorization, body }
    match ← exchange message with
    | .error reason => return .error (.http urlText reason)
    | .ok (status, bytes) => return .ok (Response.ofBytes status bytes)

end CouchLoad.Http
