/-!
# Patterns

A pattern describes texts: characters, sets of characters and places in a text, one after the
other, repeated, in groups and side by side. From some place in a pattern on it can be read in
another mode, until the end of the group around that place.
-/

namespace CouchLoad

namespace Pattern

/-- A way of reading a pattern that can be switched on and off. -/
inductive Mode where
  /-- A letter stands for itself in either case. -/
  | anyCase
  /-- Each line has a start and an end of its own. -/
  | manyLines
  /-- Any character can be a line feed too. -/
  | anyLine
  /-- Repetitions are as short as they can be. -/
  | reluctant
  /-- Texts are made of characters, and otherwise of bytes. -/
  | wide
  /-- A carriage return belongs to the end of a line. -/
  | carriageReturns
  /-- Blanks and comments between the parts of the pattern are left out. -/
  | spaced
  deriving DecidableEq, Repr

namespace Mode

/-- All modes. -/
def all : List Mode :=
  [anyCase, manyLines, anyLine, reluctant, wide, carriageReturns, spaced]

/-- The letter of a mode. -/
def letter : Mode → Char
  | anyCase => 'i'
  | manyLines => 'm'
  | anyLine => 's'
  | reluctant => 'U'
  | wide => 'u'
  | carriageReturns => 'R'
  | spaced => 'x'

/-- The mode of a letter. -/
def ofLetter? (c : Char) : Option Mode :=
  all.find? (·.letter = c)

end Mode

/-- Modes that are switched on, with true, or off. -/
abbrev Switches := List (Mode × Bool)

/-- What cannot be taken apart. -/
inductive Atom where
  /-- A character, which may be given by the number of its byte. -/
  | character (c : Char) (byByte : Bool)
  | anyCharacter
  /-- The start or the end of a line or of the text. -/
  | edge
  /-- A place that is, or is not, between a word and what is beside it. -/
  | wordEdge
  /-- The digits, the blanks or the characters of words, or all others. -/
  | shorthand (negated : Bool)
  /-- The characters that have, or have not, some property. -/
  | property
  deriving DecidableEq, Repr

/-- What a set of characters is made of. -/
inductive Members where
  | none
  | atom (a : Atom)
  | range (low high : Char)
  /-- A class of ASCII characters by its name. -/
  | named (negated : Bool)
  | nested (negated : Bool) (members : Members)
  | union (parts : List Members)
  /-- What two sets have in common, or what only the first or only one of them has. -/
  | combined (left right : Members)
  deriving Repr

/-- The union of some members. -/
def Members.ofList : List Members → Members
  | [] => none
  | [m] => m
  | parts => union parts

end Pattern

open Pattern in
/-- A description of texts. -/
inductive Pattern where
  | empty
  | atom (a : Atom)
  | set (negated : Bool) (members : Members)
  /-- Modes that are switched from here to the end of the group. -/
  | switch (switches : Switches)
  | repeated (p : Pattern)
  /-- A group, in which modes can be switched. -/
  | group (switches : Switches) (p : Pattern)
  | sequence (parts : List Pattern)
  | choice (parts : List Pattern)
  deriving Repr

namespace Pattern

/-- Patterns one after the other. -/
def inSequence : List Pattern → Pattern
  | [] => empty
  | [p] => p
  | parts => sequence parts

/-- Patterns side by side. -/
def inChoice : List Pattern → Pattern
  | [] => empty
  | [p] => p
  | parts => choice parts

/-! ### Depth -/

mutual

/-- How deeply members are nested. -/
def Members.depth : Members → Nat
  | .nested _ m => m.depth + 1
  | .union parts => Members.depthOfAll parts + 1
  | .combined l r => max l.depth r.depth + 1
  | _ => 0

/-- How deeply the deepest of some members are nested. -/
def Members.depthOfAll : List Members → Nat
  | [] => 0
  | m :: rest => max m.depth (Members.depthOfAll rest)

end

mutual

/-- How deeply the parts of a pattern are nested. -/
def depth : Pattern → Nat
  | .set _ m => m.depth + 1
  | .repeated p => p.depth + 1
  | .group _ p => p.depth + 1
  | .sequence parts => depthOfAll parts + 1
  | .choice parts => depthOfAll parts + 1
  | _ => 0

/-- How deeply the deepest of some patterns is nested. -/
def depthOfAll : List Pattern → Nat
  | [] => 0
  | p :: rest => max p.depth (depthOfAll rest)

end

/-! ### Use -/

/-- The modes that decide whether a pattern can be used. -/
structure Modes where
  wide : Bool := true
  anyCase : Bool := false
  deriving DecidableEq, Repr

/-- The modes after some have been switched. -/
def Modes.change (m : Modes) (switches : Switches) : Modes :=
  { wide := (switches.lookup .wide).getD m.wide
    anyCase := (switches.lookup .anyCase).getD m.anyCase }

/-- Whether a character is in ASCII. -/
def isNarrow (c : Char) : Bool :=
  c.toNat < 0x80

/-- Whether an atom can be used. The cases, classes and words of all scripts are not at hand, and
no text may be matched that is not made of whole characters. -/
def Atom.isUsable (m : Modes) : Atom → Bool
  | .character c byByte => if m.wide then !m.anyCase else !byByte || isNarrow c
  | .anyCharacter => m.wide
  | .edge => true
  | .wordEdge => !m.wide
  | .shorthand negated => !m.wide && !negated
  | .property => false

namespace Members

mutual

/-- Whether there is plainly no character among some members. -/
def isVoid : Members → Bool
  | .none => true
  | .nested negated m => !negated && m.isVoid
  | .union parts => areVoid parts
  | .combined l r => l.isVoid && r.isVoid
  | _ => false

/-- Whether this holds of all of them. -/
def areVoid : List Members → Bool
  | [] => true
  | m :: rest => m.isVoid && areVoid rest

end

mutual

/-- Whether nothing but single characters, ranges and classes of ASCII is used. -/
def isPlain : Members → Bool
  | .atom (.character ..) => true
  | .atom _ => false
  | .nested _ m => m.isPlain
  | .union parts => arePlain parts
  | .combined l r => l.isPlain && r.isPlain
  | _ => true

/-- Whether this holds of all of them. -/
def arePlain : List Members → Bool
  | [] => true
  | m :: rest => m.isPlain && arePlain rest

end

mutual

/-- Whether all members are in ASCII. -/
def areNarrow : Members → Bool
  | .none => true
  | .atom (.character c _) => isNarrow c
  | .atom (.shorthand negated) => !negated
  | .atom _ => false
  | .range low high => isNarrow low && isNarrow high
  | .named negated => !negated
  | .nested negated m => !negated && m.areNarrow
  | .union parts => allNarrow parts
  | .combined l r => l.areNarrow && r.areNarrow

/-- Whether this holds of all of them. -/
def allNarrow : List Members → Bool
  | [] => true
  | m :: rest => m.areNarrow && allNarrow rest

end

/-- Whether a set of characters can be used. -/
def areUsable (m : Modes) (negated : Bool) (members : Members) : Bool :=
  if !m.wide then !negated && members.areNarrow
  else if m.anyCase then members.isVoid
  else members.isPlain

end Members

mutual

/-- The modes behind a pattern; nothing if it cannot be used. -/
def modesBehind? (m : Modes) : Pattern → Option Modes
  | .empty => some m
  | .atom a => if a.isUsable m then some m else none
  | .set negated members => if members.areUsable m negated then some m else none
  | .switch switches => some (m.change switches)
  | .repeated p => p.modesBehind? m
  | .group switches p => (p.modesBehind? (m.change switches)).map fun _ => m
  | .sequence parts => modesBehindAll? m parts
  | .choice parts => modesBehindAll? m parts

/-- The modes behind the last of some patterns. -/
def modesBehindAll? (m : Modes) : List Pattern → Option Modes
  | [] => some m
  | p :: rest =>
    match p.modesBehind? m with
    | none => none
    | some m => modesBehindAll? m rest

end

/-- The deepest nesting that is admitted. -/
def deepest : Nat := 250

/-- Whether texts can be matched with a pattern. -/
def isUsable (p : Pattern) : Bool :=
  p.depth ≤ deepest && (p.modesBehind? {}).isSome

end Pattern

end CouchLoad
