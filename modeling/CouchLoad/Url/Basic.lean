import CouchLoad.Couch.Request
import CouchLoad.Url.Host

/-!
# URLs of requests

The URL of a request extends the URL of the server: the segments of its path are encoded and put
behind the path of the server, and the pairs of its query behind the query of the server. What a
URL is made of is kept in its written form.
-/

namespace CouchLoad

open Text

/-- A URL of the scheme http. The path is kept by its segments, each of which follows a slash. -/
structure Url where
  userinfo : List Char
  host : List Char
  port : Option Nat
  path : List (List Char)
  query : Option (List Char)
  fragment : Option (List Char)
  deriving DecidableEq, Repr

namespace Url

/-- The port of the scheme, which is not written. -/
def defaultPort : Nat := 80

/-! ### Writing -/

/-- The host and the port as they are written. -/
def authority (u : Url) : List Char :=
  u.host ++ (match u.port with
    | some port => ':' :: decimal port
    | none => [])

/-- The path as it is written. -/
def pathText (u : Url) : List Char :=
  u.path.flatMap ('/' :: ·)

/-- The path and the query, as a server is asked for them. -/
def target (u : Url) : List Char :=
  u.pathText ++ (match u.query with
    | some query => '?' :: query
    | none => [])

/-- The whole URL. -/
def render (u : Url) : List Char :=
  ['h', 't', 't', 'p', ':', '/', '/'] ++ u.userinfo ++ u.authority ++ u.target ++
    (match u.fragment with
      | some fragment => '#' :: fragment
      | none => [])

/-! ### Reading -/

/-- Whether a character separates the authority from what follows it. -/
def endsAuthority (c : Char) : Bool :=
  ['/', '\\', '?', '#'].contains c

/-- Whether a segment means the present directory. -/
def isSingleDot (s : List Char) : Bool :=
  [['.'], ['%', '2', 'e']].contains (s.map Char.toLower)

/-- Whether a segment means the directory above. -/
def isDoubleDot (s : List Char) : Bool :=
  let dots := [['.'], ['%', '2', 'e']]
  dots.any fun a => dots.any fun b => s.map Char.toLower = a ++ b

/-- Whether a segment names a drive, as a letter and a colon or a vertical line. -/
def isDrive : List Char → Bool
  | [c, d] => c.isAlpha && (d = ':' || d = '|')
  | _ => false

/-- The segments that lead to the directory above. There is none above the root or a drive. -/
def above (path : List (List Char)) : List (List Char) :=
  if path.getLast?.any isDrive then path else path.dropLast

/-- Walk along the segments of a path. A path that ends in a dot segment ends in a slash. -/
def walk (reached : List (List Char)) : List (List Char) → List (List Char)
  | [] => reached
  | segment :: rest =>
    let end? : List (List Char) := if rest.isEmpty then [[]] else []
    if isDoubleDot segment then walk (above reached ++ end?) rest
    else if isSingleDot segment then walk (reached ++ end?) rest
    else walk (reached ++ [percentEncode inPath segment]) rest

/-- The segments of a path that follows an authority. -/
def segmentsOf (s : List Char) : List (List Char) :=
  let slashed := s.map fun c => if c = '\\' then '/' else c
  match slashed with
  | '/' :: rest => walk [] (splitAtEach '/' rest)
  | _ => [[]]

/-- The name and the password in front of an at sign; an empty password is left out. -/
def userinfoOf (s : List Char) : List Char :=
  let (name, password) := (splitAtFirst? ':' s).getD (s, [])
  let name := percentEncode inUserinfo name
  let password := percentEncode inUserinfo password
  match name, password with
  | [], [] => []
  | name, [] => name ++ ['@']
  | name, password => name ++ ':' :: password ++ ['@']

/-- The length of the text of a host: it ends at a colon outside of brackets. -/
def hostLength (bracketed : Bool) : List Char → Nat
  | [] => 0
  | c :: s =>
    if c = ':' && !bracketed then 0
    else hostLength (c = '[' || c ≠ ']' && bracketed) s + 1

/-- The port behind the text of a host, without the default port. -/
def portOf : List Char → Except Fault (Option Nat)
  | [] | [':'] => .ok none
  | _ :: s =>
    match parseDigits? s with
    | none => .error .invalidPort
    | some port =>
      if port ≥ 0x10000 then .error .invalidPort
      else .ok (if port = defaultPort then none else some port)

/-- Read what follows the scheme. -/
def ofAuthority (s : List Char) : Except Fault Url := do
  let authority := s.takeWhile fun c => !endsAuthority c
  let rest := s.dropWhile fun c => !endsAuthority c
  let (before, fragment) := match splitAtFirst? '#' rest with
    | some (before, fragment) => (before, some (percentEncode inFragment fragment))
    | none => (rest, none)
  let (path, query) := match splitAtFirst? '?' before with
    | some (path, query) => (path, some (percentEncode inQuery query))
    | none => (before, none)
  let (userinfo, address) := match splitAtLast? ['@'] authority with
    | some (info, address) => (userinfoOf info, address)
    | none => ([], authority)
  let length := hostLength false address
  let host ← readHost (address.take length)
  let port ← portOf (address.drop length)
  return { userinfo, host, port, path := segmentsOf path, query, fragment }

/-- Whether a character is dropped wherever it stands in a URL. -/
def isDropped (c : Char) : Bool :=
  c = '\t' || c = '\n' || c = '\r'

/-- The text of the address of a server. -/
def serverText (host : String) (port : Nat) : String :=
  s!"http://{host}:{port}"

/-- The URL of a server. All slashes in front of its host are skipped. -/
def ofServer (host : String) (port : Nat) : Except Fault Url :=
  let text := (host.toList ++ ':' :: decimal port).filter fun c => !isDropped c
  ofAuthority (text.dropWhile fun c => c = '/' || c = '\\')

/-! ### Requests -/

/-- A path without the empty segment behind its final slash. -/
def withoutFinalSlash (path : List (List Char)) : List (List Char) :=
  if path.length > 1 && path.getLast? = some [] then path.dropLast else path

/-- Put a segment behind a path; the first segment behind the root takes the place of the empty
one. A segment of one or two dots is skipped. One that comes down to dots only when the characters
that are dropped from URLs are gone means a directory. -/
def push (path : List (List Char)) (segment : List Char) : List (List Char) :=
  if segment = ['.'] || segment = ['.', '.'] then path
  else
    let reached := if path = [[]] then [] else path
    let kept := segment.filter fun c => !isDropped c
    if kept = ['.', '.'] then above reached ++ [[]]
    else if kept = ['.'] then reached ++ [[]]
    else reached ++ [percentEncode inSegment kept]

/-- The URL of a request to a server. -/
def forRequest (server : Url) (r : Request) : Url :=
  let path := (r.path.map String.toList).foldl push (withoutFinalSlash server.path)
  let query :=
    if r.query.isEmpty then server.query
    else
      match server.query with
      | none | some [] => some (formPairs r.query)
      | some query => some (query ++ '&' :: formPairs r.query)
  { server with path, query }

end Url

end CouchLoad
