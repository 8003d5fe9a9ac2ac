import CouchLoad.Json.Basic
import CouchLoad.Template.Error
import CouchLoad.Text.Base64
import CouchLoad.Text.Blank

/-!
# Attachments

The attachments of a document are described by its member `_attachments`. Their data is text or
the mark of a file; a file is read at once or when it is uploaded.
-/

namespace CouchLoad

open Text

/-- When the files behind attachments are read. -/
inductive AttachmentMode where
  | lazy
  | eager
  deriving DecidableEq, Repr

/-- Where the bytes of an attachment are. -/
inductive Payload where
  | inline (bytes : List UInt8)
  | file (path : String)
  deriving DecidableEq, Repr

/-- An attachment of a document. -/
structure Attachment where
  name : String
  contentType : Option String
  payload : Payload
  deriving DecidableEq, Repr

namespace Attachment

/-- A list without its last part, if it ends with that part. -/
def dropSuffix? (s tail : List Char) : Option (List Char) :=
  (tail.reverse.isPrefixOf? s.reverse).map List.reverse

/-- The path in the mark of a file; blanks around the mark and around the path do not count. -/
def fileReference? (data : List Char) : Option (List Char) := do
  let body ← ['#', '{', 'f', 'i', 'l', 'e', '('].isPrefixOf? (trim data)
  let path := trim (← dropSuffix? body [')', '}'])
  if path.isEmpty then none else some path

/-- The attachment that an entry of `_attachments` describes. -/
def ofEntry (mode : AttachmentMode) (files : Files) (name : String) (details : Json) :
    Except Template.Error Attachment := do
  let .object members := details | throw (.attachmentNotObject name)
  let contentType := (Table.get? members "content_type").bind Json.string?
  match Table.get? members "data" with
  | none => throw (.missingAttachmentData name)
  | some (.string data) =>
    match fileReference? data.toList with
    | none => return ⟨name, contentType, .inline (utf8Encode data.toList)⟩
    | some path =>
      let path := String.ofList path
      match mode with
      | .lazy => return ⟨name, contentType, .file path⟩
      | .eager =>
        match files path with
        | .ok bytes => return ⟨name, contentType, .inline bytes⟩
        | .error fault => throw (.attachmentFile path fault)
  | some _ => throw (.attachmentDataNotString name)

/-- The attachments that the entries describe, in their order. -/
def ofEntries (mode : AttachmentMode) (files : Files) :
    List (String × Json) → Except Template.Error (List Attachment)
  | [] => .ok []
  | (name, details) :: entries => do
    let attachment ← ofEntry mode files name details
    let attachments ← ofEntries mode files entries
    return attachment :: attachments

/-- Split the attachments off the members of a document. -/
def split (mode : AttachmentMode) (files : Files) (members : Table Json) :
    Except Template.Error (Table Json × List Attachment) :=
  match members.get? "_attachments" with
  | none => .ok (members, [])
  | some (.object entries) => do
    return (members.erase "_attachments", ← ofEntries mode files entries)
  | some _ => .error .attachmentsNotObject

/-- The paths of the files that the entries of `_attachments` refer to. -/
def referencedFiles (document : Json) : List String :=
  match document.field "_attachments" with
  | .object entries => entries.filterMap fun (_, details) =>
    match details.field "data" with
    | .string data => (fileReference? data.toList).map String.ofList
    | _ => none
  | _ => []

/-- How an attachment stands inside a document, unless its file has not been read. -/
def stub? (a : Attachment) : Option Json :=
  match a.payload with
  | .file _ => none
  | .inline bytes =>
    let data := ("data", Json.string (String.ofList (base64Encode bytes)))
    match a.contentType with
    | none => some (.object [data])
    | some type => some (.object [data, ("content_type", .string type)])

end Attachment

end CouchLoad
