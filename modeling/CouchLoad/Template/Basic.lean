import CouchLoad.Document.Basic
import CouchLoad.Json.Reader
import CouchLoad.Template.Pruning
import CouchLoad.Template.Resolve
import CouchLoad.Template.Scan

/-!
# Templates

A template is read once and rendered for every document: its placeholders are resolved, the
result is read as JSON, conditional fields are pruned, and attachments are split off.
-/

namespace CouchLoad

/-- A template that has been read. -/
structure Template where
  segments : List Template.Segment

namespace Template

open Entropy

/-- Whether a line belongs to the template: lines that start with a hash sign and blank lines do
not. -/
def isContent (line : List Char) : Bool :=
  line.head? ≠ some '#' && !(Text.trim line).isEmpty

/-- The text of a template without comments and blank lines. -/
def content (text : List Char) : List Char :=
  ((Text.lines text).filter isContent).flatten

/-- The template that a text is. -/
def parse (text : List Char) : Except Error Template :=
  match content text with
  | [] => .error .empty
  | text => (tokenize text).map Template.mk

/-- The template in a file. -/
def ofFile (files : Files) (path : String) : Except Error Template :=
  match files.readText path with
  | .ok text => parse text
  | .error fault => .error (.templateFile path fault)

/-- Resolve the placeholders and read the result as JSON. -/
def compile (t : Template) (ctx : Context) (s : Source) : Except Error Json × Source :=
  match resolveAll ctx t.segments s with
  | (.error e, s) => (.error e, s)
  | (.ok text, s) => ((Json.parse text).mapError .invalidJson, s)

/-- The value of one document, its attachments still inside. -/
def value (t : Template) (ctx : Context) (s : Source) : Except Error Json × Source :=
  let (compiled, s) := t.compile ctx s
  (compiled.bind (prune ctx), s)

/-- One document. -/
def render (t : Template) (ctx : Context) (mode : AttachmentMode) (files : Files) (fresh : Uuid)
    (s : Source) : Except Error Document × Source :=
  let (value, s) := t.value ctx s
  (value.bind (Document.ofJson mode files fresh), s)

end Template

end CouchLoad
