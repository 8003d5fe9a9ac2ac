import CouchLoad.Url.Domain.Basic

/-!
# Hosts

A host is a domain name, or an address of version 4 or 6 of the internet protocol. Names are kept
in ASCII. A name whose last label is a number is an address, in any of the spellings that addresses
have: one to four parts, each in base ten, eight or sixteen.
-/

namespace CouchLoad.Url

open Text

/-- What is wrong with the text of a URL. -/
inductive Fault where
  | emptyHost
  | invalidPort
  | invalidName
  | invalidIpv4
  | invalidIpv6
  deriving DecidableEq, Repr

/-- The wording of the fault. -/
def Fault.message : Fault → String
  | .emptyHost => "empty host"
  | .invalidPort => "invalid port number"
  | .invalidName => "invalid international domain name"
  | .invalidIpv4 => "invalid IPv4 address"
  | .invalidIpv6 => "invalid IPv6 address"

namespace Ipv4

/-- The number that one part of an address denotes; the lone mark of a base denotes zero. -/
def part? : List Char → Option Nat
  | [] => none
  | '0' :: 'x' :: s | '0' :: 'X' :: s => parseInBase? 16 s
  | '0' :: c :: s => parseInBase? 8 (c :: s)
  | s => parseInBase? 10 s

/-- The labels of a name, without the empty one behind a final point. -/
def labels (name : List Char) : List (List Char) :=
  match (splitAtEach '.' name).reverse with
  | [] :: label :: rest => (label :: rest).reverse
  | labels => labels.reverse

/-- Whether the last label of a name is a number, so that the name is an address. -/
def endsInNumber (name : List Char) : Bool :=
  match (labels name).getLast? with
  | none | some [] => false
  | some label => label.all Char.isDigit || (part? label).isSome

/-- What the four bytes of an address count for. -/
def weights : List Nat :=
  [0x1000000, 0x10000, 0x100, 1]

/-- The number of an address. All parts but the last are one byte each, and the last fills what
is left of the four bytes. -/
def ofName? (name : List Char) : Option Nat := do
  let parts ← (labels name).mapM part?
  let last ← parts.getLast?
  let leading := parts.dropLast
  let room := (weights.drop leading.length).headD 1 * 256
  if leading.length < 4 && leading.all (· < 256) && last < room then
    some ((List.zipWith (· * ·) leading weights).foldl (· + ·) last)
  else none

/-- The four bytes in base ten. -/
def render (address : Nat) : List Char :=
  List.intercalate ['.'] <| weights.map fun w => decimal (address / w % 256)

end Ipv4

namespace Ipv6

/-- One group of an address: one to four digits in base sixteen. -/
def group? (s : List Char) : Option Nat :=
  if 1 ≤ s.length && s.length ≤ 4 then parseInBase? 16 s else none

/-- A byte in base ten, without leading zeros. -/
def byte? (s : List Char) : Option Nat :=
  if s.length > 1 && s.head? = some '0' then none else (parseDigits? s).filter (· < 256)

/-- The two groups that four bytes in base ten denote. -/
def embedded? (s : List Char) : Option (List Nat) := do
  match ← (splitAtEach '.' s).mapM byte? with
  | [a, b, c, d] => some [256 * a + b, 256 * c + d]
  | _ => none

/-- The groups between the colons of a text; at the end of an address four bytes may stand for
two groups. -/
def groups? (final : Bool) (s : List Char) : Option (List Nat) :=
  if s.isEmpty then some []
  else
    let pieces := splitAtEach ':' s
    match pieces.getLast? with
    | none => some []
    | some last =>
      if final && last.contains '.' then do
        return (← pieces.dropLast.mapM group?) ++ (← embedded? last)
      else pieces.mapM group?

/-- The text before and after a double colon. -/
def splitAtGap? : List Char → Option (List Char × List Char)
  | ':' :: ':' :: s => some ([], s)
  | [] => none
  | c :: s => (splitAtGap? s).map fun (before, after) => (c :: before, after)

/-- The eight groups of an address. A double colon stands for as many groups of zero as are
missing. -/
def ofText? (s : List Char) : Option (List Nat) :=
  match splitAtGap? s with
  | none => (groups? true s).filter (·.length = 8)
  | some (before, after) => do
    let front ← groups? false before
    let back ← groups? true after
    let given := front.length + back.length
    if given < 8 then some (front ++ List.replicate (8 - given) 0 ++ back) else none

/-- The number of zeros in front of a list. -/
def leadingZeros (groups : List Nat) : Nat :=
  (groups.takeWhile (· = 0)).length

/-- Where the first of the longest runs of at least two zeros starts, and its length. -/
def gap? (groups : List Nat) : Option (Nat × Nat) :=
  let runs := (List.range groups.length).map fun i => (i, leadingZeros (groups.drop i))
  let longest := (runs.map Prod.snd).foldl max 0
  if longest < 2 then none else runs.find? fun run => run.2 = longest

/-- The groups in base sixteen with colons between them and a double colon for the gap. -/
def render (groups : List Nat) : List Char :=
  let join (gs : List Nat) := List.intercalate [':'] (gs.map (hex 1))
  match gap? groups with
  | none => join groups
  | some (start, length) =>
    join (groups.take start) ++ [':', ':'] ++ join (groups.drop (start + length))

end Ipv6

/-- The text of the host that a text denotes. Percent forms in a name are decoded first. -/
def readHost (s : List Char) : Except Fault (List Char) :=
  match s with
  | [] => .error .emptyHost
  | '[' :: rest =>
    match rest.reverse with
    | ']' :: body =>
      match Ipv6.ofText? body.reverse with
      | some groups => .ok ('[' :: Ipv6.render groups ++ [']'])
      | none => .error .invalidIpv6
    | _ => .error .invalidIpv6
  | s =>
    match Domain.toAscii? (utf8DecodeLossy (percentDecode s)) with
    | none => .error .invalidName
    | some [] => .error .emptyHost
    | some name =>
      if Ipv4.endsInNumber name then
        match Ipv4.ofName? name with
        | some address => .ok (Ipv4.render address)
        | none => .error .invalidIpv4
      else .ok name

end CouchLoad.Url
