import CouchLoad.Condition.Eval
import CouchLoad.Json.Basic
import CouchLoad.Template.Error
import CouchLoad.Text.Blank
import CouchLoad.Text.Split

/-!
# Conditional fields

A field whose name is the mark of a condition followed by a bare name is kept under the bare name
if the condition holds, and dropped otherwise. The condition ends at the last `)}` of the name.
-/

namespace CouchLoad.Template

open Text

/-- The condition and the bare name of a conditional name. -/
def splitConditional? (name : List Char) : Option (List Char × List Char) := do
  let body ← ['#', '{', 'i', 'f', '('].isPrefixOf? (trimStart name)
  splitAtLast? [')', '}'] body

/-- What the condition in a name says about its field: the name to keep it under, if any. -/
def keptName (ctx : Context) (name : String) : Except Error (Option String) :=
  match splitConditional? name.toList with
  | none => .ok (some name)
  | some (source, bare) =>
    match Condition.holds ctx source with
    | .ok true => .ok (some (String.ofList bare))
    | .ok false => .ok none
    | .error e => .error (.condition source e)

mutual

/-- Keep the fields whose conditions hold, at every depth. The value of a field is looked at
before its condition. -/
def prune (ctx : Context) : Json → Except Error Json
  | .array items => do return .array (← pruneItems ctx items)
  | .object members => do return .object (← pruneMembers ctx [] members)
  | v => .ok v

/-- Prune every item. -/
def pruneItems (ctx : Context) : List Json → Except Error (List Json)
  | [] => .ok []
  | v :: items => do
    let v ← prune ctx v
    let items ← pruneItems ctx items
    return v :: items

/-- Write the members that are kept behind those already there. -/
def pruneMembers (ctx : Context) (kept : Table Json) :
    List (String × Json) → Except Error (Table Json)
  | [] => .ok kept
  | (name, v) :: members => do
    let v ← prune ctx v
    match ← keptName ctx name with
    | some name => pruneMembers ctx (kept.insert name v) members
    | none => pruneMembers ctx kept members

end

end CouchLoad.Template
