import CouchLoad.Entropy.Uuid
import CouchLoad.Json.Basic
import CouchLoad.Text.Numeral
import CouchLoad.Text.Split

/-!
# Revisions

A revision is written as its generation, a hyphen and its hash. The hash may hold hyphens
itself.
-/

namespace CouchLoad

/-- A revision of a document. -/
structure Revision where
  generation : Nat
  hash : String
  deriving DecidableEq, Repr

namespace Revision

/-- The text of a revision. -/
def display (r : Revision) : String :=
  String.ofList (Text.decimal r.generation) ++ "-" ++ r.hash

/-- The revision that a text denotes: a positive generation of at most 64 bits and a hash that is
not empty. -/
def parse? (s : String) : Option Revision := do
  let (before, after) ← Text.splitAtFirst? '-' s.toList
  let generation ← Text.parseUnsigned? 64 before
  if generation = 0 || after.isEmpty then none
  else some ⟨generation, String.ofList after⟩

/-- A revision as a JSON value, which is its text. -/
def toJson (r : Revision) : Json :=
  .string r.display

/-- The revision that a JSON value denotes. -/
def ofJson? : Json → Option Revision
  | .string text => parse? text
  | _ => none

/-- The wording of the error for a text that is no revision. -/
def invalidMessage (s : String) : String :=
  s!"Invalid revision '{s}'"

/-- A revision of the same generation with a random hash. Written as it is, it becomes a conflict
beside this one. -/
def conflictingSibling (r : Revision) (u : Entropy.Uuid) : Revision :=
  { r with hash := u.simple }

end Revision

end CouchLoad
