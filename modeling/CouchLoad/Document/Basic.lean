import CouchLoad.Document.Attachment
import CouchLoad.Json.Writer
import CouchLoad.Entropy.Uuid

/-!
# Documents

A document has an id, perhaps a revision, its fields in the order of the template, and
attachments. It is written alone or as one of many; only in the latter case do its attachments
stand inside it.
-/

namespace CouchLoad

/-- A document. -/
structure Document where
  id : String
  rev : Option String
  fields : Table Json
  attachments : List Attachment
  deriving DecidableEq, Repr

namespace Document

/-- The id that a value of `_id` stands for. Where there is none, a fresh identifier is used. -/
def idOf (fresh : Entropy.Uuid) : Option Json → Except Template.Error String
  | none | some .null => .ok fresh.hyphenated
  | some (.string id) => .ok id
  | some (.number n) => .ok (String.ofList (Json.renderNumber n))
  | some _ => .error .invalidId

/-- The document that a resolved value describes. -/
def ofJson (mode : AttachmentMode) (files : Files) (fresh : Entropy.Uuid) (v : Json) :
    Except Template.Error Document := do
  let .object members := v | throw .notAnObject
  let (members, attachments) ← Attachment.split mode files members
  let id ← idOf fresh (members.get? "_id")
  let rev := (members.get? "_rev").bind Json.string?
  return { id, rev, fields := (members.erase "_id").erase "_rev", attachments }

/-- The members of a document that is written: its id, its revision if it has one, and its
fields. -/
def members (d : Document) : Table Json :=
  let start : Table Json := match d.rev with
    | none => [("_id", .string d.id)]
    | some rev => [("_id", .string d.id), ("_rev", .string rev)]
  d.fields.foldl (fun t (name, v) => t.insert name v) start

/-- The body that writes a document alone. -/
def body (d : Document) : Json :=
  .object d.members

/-- The attachments that can stand inside the document. -/
def stubs (d : Document) : Table Json :=
  Table.ofList (d.attachments.filterMap fun a => a.stub?.map fun stub => (a.name, stub))

/-- The body that writes a document among others. -/
def bulkBody (d : Document) : Json :=
  match d.stubs with
  | [] => d.body
  | stubs => .object (d.members.insert "_attachments" (.object stubs))

end Document

end CouchLoad
