import CouchLoad.Couch.Request
import CouchLoad.Couch.Revision
import CouchLoad.Files

/-!
# Failures of requests
-/

namespace CouchLoad

/-- Why a request got no answer. -/
inductive TransportError where
  /-- The exchange over HTTP failed. -/
  | http (url reason : String)
  /-- The other side dropped the connection. -/
  | disconnected (reason : String)
  /-- The file that was to be sent cannot be opened. -/
  | file (path : String) (fault : FileFault)
  | invalidUrl (url reason : String)
  deriving DecidableEq, Repr

namespace TransportError

/-- Whether the same request may succeed over a new connection. -/
def isRetryable : TransportError → Bool
  | .http .. | .disconnected _ => true
  | .file .. | .invalidUrl .. => false

/-- The wording of the error, without what stands behind it. -/
def summary : TransportError → String
  | .http url _ => s!"HTTP request to {url}"
  | .disconnected reason => s!"Connection lost: {reason}"
  | .file path _ => s!"Couldn't open attachment file '{path}'"
  | .invalidUrl url reason => s!"Invalid request URL '{url}': {reason}"

/-- The whole wording of the error. -/
def message (e : TransportError) : String :=
  match e with
  | .http _ reason => e.summary ++ " failed: " ++ reason
  | .file _ fault => e.summary ++ ": " ++ fault.message
  | _ => e.summary

end TransportError

/-- What is wrong with the body of an accepted request. -/
inductive AnswerFault where
  | missingRev
  | invalidRevision (text : String)
  | notBulkResults
  deriving DecidableEq, Repr

/-- The wording of the fault. -/
def AnswerFault.message : AnswerFault → String
  | .missingRev => "missing rev"
  | .invalidRevision text => Revision.invalidMessage text
  | .notBulkResults => "not a list of bulk results"

/-- Why an operation on the store failed. -/
inductive StoreError where
  | transport (e : TransportError)
  /-- The request was refused. -/
  | refused (request : Request) (status : Nat) (reason : String)
  /-- The request was accepted, but the answer is not what the operation expects. -/
  | unexpectedResponse (request : Request) (fault : AnswerFault)
  deriving DecidableEq

/-- The whole wording of the error. -/
def StoreError.message : StoreError → String
  | .transport e => e.message
  | .refused request status reason =>
    s!"{request.describe} failed with status {status}: {reason}"
  | .unexpectedResponse request fault =>
    s!"Unexpected response to {request.describe}: {fault.message}"

end CouchLoad
