import CouchLoad.Json.Basic

/-!
# Requests

A request names what it is about by unencoded path segments and query pairs. How these are
written in a URL is the business of the connection.
-/

namespace CouchLoad

/-- The methods in use. -/
inductive Method where
  | get
  | put
  | post
  | delete
  deriving DecidableEq, Repr

/-- The name of a method. -/
def Method.name : Method → String
  | .get => "GET"
  | .put => "PUT"
  | .post => "POST"
  | .delete => "DELETE"

/-- The body of a request. A file is read when the request is sent. -/
inductive Body where
  | empty
  | json (value : Json)
  | bytes (bytes : List UInt8)
  | file (path : String)
  deriving DecidableEq

/-- A request. -/
structure Request where
  method : Method
  path : List String
  query : List (String × String)
  contentType : Option String
  body : Body
  deriving DecidableEq

namespace Request

/-- A request without query and body. -/
def plain (method : Method) (path : List String) : Request :=
  { method, path, query := [], contentType := none, body := .empty }

/-- Add a pair to the query. -/
def withQuery (r : Request) (key value : String) : Request :=
  { r with query := r.query ++ [(key, value)] }

/-- Set a JSON body. -/
def withJson (r : Request) (value : Json) : Request :=
  { r with contentType := some "application/json", body := .json value }

/-- Set a body and its type. -/
def withBody (r : Request) (body : Body) (contentType : Option String) : Request :=
  { r with contentType, body }

/-- The first value of a key of the query. -/
def queryParam? (r : Request) (key : String) : Option String :=
  r.query.lookup key

/-- The pairs of a query, each behind its mark. -/
def describeQuery (mark : String) : List (String × String) → String
  | [] => ""
  | (key, value) :: rest => mark ++ key ++ "=" ++ value ++ describeQuery "&" rest

/-- A short form for messages, with nothing encoded. -/
def describe (r : Request) : String :=
  r.method.name ++ " /" ++ "/".intercalate r.path ++ describeQuery "?" r.query

end Request

end CouchLoad
