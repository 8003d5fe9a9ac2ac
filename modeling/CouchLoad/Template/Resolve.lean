import CouchLoad.Entropy.Draw
import CouchLoad.Template.Segment

/-!
# Resolving templates

Segments become text from left to right, and so are the random draws made. The arguments of a
deferred call are resolved, draws included, before the call itself. Files and conditions stay
behind as marks, which are read once the text has been understood as JSON.
-/

namespace CouchLoad.Template

open Entropy Text

/-- The mark that a file leaves. -/
def fileMark (path : List Char) : List Char :=
  ['#', '{', 'f', 'i', 'l', 'e', '('] ++ path ++ [')', '}']

/-- The mark that a condition leaves. -/
def conditionMark (source : List Char) : List Char :=
  ['#', '{', 'i', 'f', '('] ++ source ++ [')', '}']

/-- The text of a call. -/
def Call.resolve (c : Call) (s : Source) : List Char × Source :=
  match c with
  | .randomInt low high =>
    let (n, s) := integer low high s
    (decimalInt n, s)
  | .randomString (some length) => letters length s
  | .randomString none =>
    let (length, s) := textLength s
    letters length s
  | .pick options =>
    let (choice, s) := Entropy.pick options s
    (choice.getD [], s)
  | .file path => (fileMark path, s)

/-- How a call whose arguments were resolved is quoted. -/
def quoteCall (kind : CallKind) (arguments : List Char) : List Char :=
  ['#', '{'] ++ kind.name.toList ++ '(' :: arguments ++ [')', '}']

mutual

/-- The text of a segment. -/
def Segment.resolve (ctx : Context) (segment : Segment) (s : Source) :
    Except Error (List Char) × Source :=
  match segment with
  | .literal text => (.ok text, s)
  | .hash => (.ok ['#'], s)
  | .reference r => (.ok (ctx.text r), s)
  | .call c =>
    let (text, s) := c.resolve s
    (.ok text, s)
  | .condition source =>
    match resolveAll ctx source s with
    | (.ok text, s) => (.ok (conditionMark text), s)
    | (.error e, s) => (.error e, s)
  | .deferred kind arguments =>
    match resolveAll ctx arguments s with
    | (.ok text, s) =>
      match Call.ofArguments kind text with
      | .ok c =>
        let (text, s) := c.resolve s
        (.ok text, s)
      | .error fault => (.error (.invalidPlaceholder (quoteCall kind text) fault), s)
    | (.error e, s) => (.error e, s)

/-- The text of a list of segments. -/
def resolveAll (ctx : Context) (segments : List Segment) (s : Source) :
    Except Error (List Char) × Source :=
  match segments with
  | [] => (.ok [], s)
  | segment :: segments =>
    match segment.resolve ctx s with
    | (.ok text, s) =>
      match resolveAll ctx segments s with
      | (.ok rest, s) => (.ok (text ++ rest), s)
      | (.error e, s) => (.error e, s)
    | (.error e, s) => (.error e, s)

end

end CouchLoad.Template
