import CouchLoad.Couch.Revision
import CouchLoad.Json.Basic

/-!
# Results of bulk writes

A bulk write is answered by one result for each document. A result is an object, of which four
members are looked at, or a list of up to four values in the place of these members.
-/

namespace CouchLoad

/-- The result of writing one document of many. -/
structure BulkResult where
  id : Option String
  rev : Option String
  error : Option String
  reason : Option String
  deriving DecidableEq, Repr

namespace BulkResult

/-- A member that is a string, null or absent. -/
def optionalString? : Json → Option (Option String)
  | .null => some none
  | .string text => some (some text)
  | _ => none

/-- The result that a value describes. -/
def ofJson? (v : Json) : Option BulkResult :=
  let make (id rev error reason : Json) : Option BulkResult := do
    return ⟨← optionalString? id, ← optionalString? rev, ← optionalString? error,
      ← optionalString? reason⟩
  match v with
  | .object _ => make (v.field "id") (v.field "rev") (v.field "error") (v.field "reason")
  | .array items =>
    if items.length ≤ 4 then
      make (items.getD 0 .null) (items.getD 1 .null) (items.getD 2 .null) (items.getD 3 .null)
    else none
  | _ => none

/-- The results that a list of values describes. -/
def listOfJson? : Json → Option (List BulkResult)
  | .array items => items.mapM ofJson?
  | _ => none

/-- The new revision, if the write succeeded. -/
def revision? (r : BulkResult) : Option Revision :=
  if r.error.isSome then none else r.rev.bind Revision.parse?

/-- What went wrong, if the write failed. -/
def failure? (r : BulkResult) : Option String :=
  match r.error, r.reason with
  | none, _ => none
  | some error, some reason => some (error ++ ": " ++ reason)
  | some error, none => some error

end BulkResult

end CouchLoad
