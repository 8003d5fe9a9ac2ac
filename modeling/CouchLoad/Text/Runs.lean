import CouchLoad.Text.Numeral
import CouchLoad.Text.Split

/-!
# Tables over characters

A large table that gives values to characters is written as a text of blocks with blanks between
them. A block is a code point, a colon and items with commas between them, which speak about this
code point and those behind it. An item is a value, which is one or more numbers with points
between them, and can have a mark and a count behind it: `61+1a` gives 61, 62 and so on to 1a
characters, `101*18` gives 101, 103 and so on to every other of the following characters until 18
have got one, and `e6=15` gives e6 to each of 15 characters. All numbers are in base sixteen.
-/

namespace CouchLoad.Text

/-- Characters with even spaces between them, and their values. -/
structure Run where
  first : Nat
  count : Nat
  /-- The space from one character to the next. -/
  stride : Nat
  /-- What is added to the value from one character to the next. -/
  slope : Nat
  value : List Nat
  deriving DecidableEq, Repr

namespace Run

/-- The value of a character of a run. -/
def value? (r : Run) (c : Char) : Option (List Nat) :=
  let index := (c.toNat - r.first) / r.stride
  if r.first ≤ c.toNat && (c.toNat - r.first) % r.stride = 0 && index < r.count then
    some (r.value.map (· + index * r.slope))
  else none

/-- The number that digits in base sixteen denote. -/
def number (s : List Char) : Nat :=
  (parseInBase? 16 s).getD 0

/-- The run of one item. -/
def ofItem (first : Nat) (item : List Char) : Run :=
  let isMark (c : Char) := ['+', '*', '='].contains c
  let value := (splitAtEach '.' (item.takeWhile fun c => !isMark c)).map number
  match item.dropWhile fun c => !isMark c with
  | '+' :: count => ⟨first, number count, 1, 1, value⟩
  | '*' :: count => ⟨first, number count, 2, 2, value⟩
  | '=' :: count => ⟨first, number count, 1, 0, value⟩
  | _ => ⟨first, 1, 1, 0, value⟩

/-- The runs of items, each of which starts behind the one before it. -/
def ofItems (first : Nat) : List (List Char) → List Run
  | [] => []
  | item :: items =>
    let run := ofItem first item
    run :: ofItems (first + run.count * run.stride) items

/-- The runs of a table. -/
def ofText (table : String) : List Run :=
  let blocks := splitAtEach ' ' (table.toList.map fun c => if c = '\n' then ' ' else c)
  (blocks.filterMap (splitAtFirst? ':')).flatMap fun (first, items) =>
    ofItems (number first) (splitAtEach ',' items)

end Run

/-- The value of a character in a table. -/
def valueOf? (table : List Run) (c : Char) : Option (List Nat) :=
  table.findSome? (·.value? c)

end CouchLoad.Text
