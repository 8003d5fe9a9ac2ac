import CouchLoad.Url.Domain.Direction
import CouchLoad.Url.Domain.Joining
import CouchLoad.Url.Domain.Mapping
import CouchLoad.Url.Domain.Punycode
import CouchLoad.Url.Percent

/-!
# Domain names

A domain name is a text of labels with points between them. It is brought to a form in which
spellings that mean the same name are alike, and then written in ASCII: a label with other
characters is written in Punycode behind a marker.
-/

namespace CouchLoad.Url.Domain

open Text

/-- Whether a character is in ASCII. -/
def isAscii (c : Char) : Bool :=
  c.toNat < 0x80

/-- Whether an ASCII character may stand in a domain name. -/
def inName (c : Char) : Bool :=
  isGraphic c &&
    !(['#', '/', ':', '<', '>', '?', '@', '[', '\\', ']', '^', '|', '%'].contains c)

/-- What a label in Punycode starts with. -/
def marker : List Char :=
  ['x', 'n', '-', '-']

/-- The longest label above ASCII, and the longest text in Punycode, that is looked at. -/
def longestLabel : Nat := 1000
def longestCode : Nat := 2000

/-- Whether a text is in the form to which names are brought. -/
def isNormal (s : List Char) : Bool :=
  s.all (fun c => mapped? c = some [c]) && normalize s = s

/-- The characters of a label. Punycode may stand only for characters that need it and that are in
the normal form. -/
def characters? (label : List Char) : Option (List Char) :=
  match marker.isPrefixOf? label with
  | none => some label
  | some code =>
    if code.length > longestCode || !code.all isAscii || code.getLast? = some '-' then none
    else (Punycode.decode? code).filter fun s => !s.isEmpty && isNormal s

/-- Whether the characters of a label may stand together. -/
def isLabel (s : List Char) : Bool :=
  s.all (fun c => !isAscii c || inName c) && !(s.head?.any isMark) && joinersHold [] s &&
    (s.all isAscii || s.length ≤ longestLabel)

/-- The form in ASCII of a label. -/
def writeLabel (s : List Char) : List Char :=
  if s.all isAscii then s else marker ++ Punycode.encode s

/-- The form in ASCII of a domain name. -/
def toAscii? (name : List Char) : Option (List Char) := do
  let text := normalize (← name.mapM mapped?).flatten
  let labels ← (splitAtEach '.' text).mapM characters?
  if labels.all isLabel && (!labels.any turns || labels.all isSteady) then
    some (List.intercalate ['.'] (labels.map writeLabel))
  else none

end CouchLoad.Url.Domain
