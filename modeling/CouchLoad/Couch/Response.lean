import CouchLoad.Json.Reader
import CouchLoad.Json.Writer
import CouchLoad.Text.Utf8

/-!
# Responses

A body that is not JSON counts as one string, and an empty body as null.
-/

namespace CouchLoad

/-- A response. -/
structure Response where
  status : Nat
  body : Json
  deriving DecidableEq

namespace Response

/-- The value of a body. Bytes that are not UTF-8 are not JSON either. -/
def bodyOfBytes (bytes : List UInt8) : Json :=
  if bytes.isEmpty then .null
  else
    let text := Text.utf8DecodeLossy bytes
    match (Text.utf8Decode? bytes).map Json.parse with
    | some (.ok v) => v
    | _ => .string (String.ofList text)

/-- The response with the given bytes as its body. -/
def ofBytes (status : Nat) (bytes : List UInt8) : Response :=
  ⟨status, bodyOfBytes bytes⟩

/-- Whether the request was accepted. -/
def isSuccess (r : Response) : Bool :=
  200 ≤ r.status && r.status < 300

/-- What the response says about a failure: its error and reason, or else its whole body. -/
def errorReason (r : Response) : String :=
  match r.body.field "error", r.body.field "reason", r.body with
  | .string error, .string reason, _ => error ++ ": " ++ reason
  | .string error, _, _ => error
  | _, _, .string text => text
  | _, _, v => v.toText

end Response

end CouchLoad
