import CouchLoad.Condition.Eval
import CouchLoad.Files
import CouchLoad.Json.Basic

/-!
# Faults of templates
-/

namespace CouchLoad.Template

/-- What is wrong with a placeholder. -/
inductive CallFault where
  | expectedTwoBounds
  | notAnInteger (text : List Char)
  | boundsOutOfOrder
  | expectedLength
  | missingPath
  | unbalancedParenthesis
  deriving DecidableEq, Repr

/-- The wording of the fault. -/
def CallFault.message : CallFault → String
  | .expectedTwoBounds => "expected two integer bounds"
  | .notAnInteger text => s!"'{String.ofList text}' is not an integer"
  | .boundsOutOfOrder => "lower bound exceeds upper bound"
  | .expectedLength => "expected a non-negative length"
  | .missingPath => "missing file path"
  | .unbalancedParenthesis => "unbalanced parenthesis in conditional"

/-- What stands behind a failure: a text that is not JSON, or a file that cannot be read. -/
inductive Cause where
  | json (e : Json.ReadError)
  | file (fault : FileFault)
  deriving DecidableEq, Repr

/-- The wording of the cause. -/
def Cause.message : Cause → String
  | .json e => e.message
  | .file fault => fault.message

/-- Why a template cannot be read or a document cannot be made from it. -/
inductive Error where
  | templateFile (path : String) (fault : FileFault)
  | empty
  | invalidPlaceholder (placeholder : List Char) (fault : CallFault)
  | unterminatedPlaceholder (offset : Nat)
  | invalidJson (e : Json.ReadError)
  | notAnObject
  | invalidId
  | condition (source : List Char) (e : Condition.Error)
  | attachmentsNotObject
  | attachmentNotObject (name : String)
  | missingAttachmentData (name : String)
  | attachmentDataNotString (name : String)
  | attachmentFile (path : String) (fault : FileFault)
  deriving DecidableEq, Repr

/-- The wording of the error, without its cause. -/
def Error.summary : Error → String
  | .templateFile path _ => s!"Couldn't open the doc template file '{path}'"
  | .empty => "Doc template is empty"
  | .invalidPlaceholder placeholder fault =>
    s!"Invalid placeholder '{String.ofList placeholder}': {fault.message}"
  | .unterminatedPlaceholder offset => s!"Unterminated placeholder at byte offset {offset}"
  | .invalidJson _ => "Resolved template is not valid JSON"
  | .notAnObject => "Resolved template must be a JSON object"
  | .invalidId => "The _id attribute must be a string or a number"
  | .condition source e =>
    s!"Invalid conditional expression '{String.ofList source}': {e.message}"
  | .attachmentsNotObject => "The _attachments attribute of the doc template must be an object"
  | .attachmentNotObject name =>
    s!"The _attachments/{name} attribute of the doc template must be an object"
  | .missingAttachmentData name => s!"Missing data attribute for the attachment named '{name}'"
  | .attachmentDataNotString name =>
    s!"The data attribute of the attachment named '{name}' must be a string"
  | .attachmentFile path _ => s!"Couldn't read attachment file '{path}'"

/-- The cause of the error, where there is one behind it. -/
def Error.cause? : Error → Option Cause
  | .templateFile _ fault => some (.file fault)
  | .invalidJson e => some (.json e)
  | .attachmentFile _ fault => some (.file fault)
  | _ => none

/-- The whole wording of the error. -/
def Error.message (e : Error) : String :=
  match e.cause? with
  | some cause => e.summary ++ ": " ++ cause.message
  | none => e.summary

end CouchLoad.Template
