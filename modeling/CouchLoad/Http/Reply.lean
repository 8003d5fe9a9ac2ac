import CouchLoad.Text.Numeral
import CouchLoad.Text.Split
import CouchLoad.Text.Blank

/-!
# Replies over HTTP

A reply is read from the bytes that have come in so far. It has a head of lines, an empty line
and a body, whose end is known from its length, from its chunks or from the end of the stream.
-/

namespace CouchLoad.Http

open Text

/-- A whole reply. -/
structure Reply where
  status : Nat
  body : List UInt8
  /-- Whether the connection can be used again. -/
  keepsOpen : Bool
  deriving DecidableEq, Repr

/-- What the bytes so far amount to. -/
inductive Reception where
  | incomplete
  | malformed
  | complete (reply : Reply)
  deriving DecidableEq, Repr

namespace Reception

/-- The bytes before and after the first line end. -/
def splitLine? : List UInt8 → Option (List UInt8 × List UInt8)
  | 13 :: 10 :: rest => some ([], rest)
  | [] => none
  | b :: rest => (splitLine? rest).map fun (line, rest) => (b :: line, rest)

/-- What is left behind a line is shorter. -/
theorem length_of_splitLine? {bytes line rest : List UInt8}
    (h : splitLine? bytes = some (line, rest)) : rest.length < bytes.length := by
  fun_induction splitLine? bytes generalizing line with
  | case1 r =>
    obtain ⟨rfl, rfl⟩ := Prod.mk.inj (Option.some.inj h)
    exact Nat.lt_succ_of_lt (Nat.lt_succ_self _)
  | case2 => cases h
  | case3 b r _ ih =>
    obtain ⟨⟨l, r'⟩, hr, heq⟩ := Option.map_eq_some_iff.1 h
    obtain ⟨rfl, rfl⟩ := Prod.mk.inj heq
    exact Nat.lt_succ_of_lt (ih hr)

/-- A line as text; every byte is one character. -/
def lineText (line : List UInt8) : List Char :=
  line.map fun b => Char.ofNat b.toNat

/-- The lines of the head and the bytes behind it, if the head is complete. -/
def splitHead? (bytes : List UInt8) : Option (List (List Char) × List UInt8) :=
  match h : splitLine? bytes with
  | none => none
  | some ([], rest) => some ([], rest)
  | some (line, rest) =>
    have := length_of_splitLine? h
    (splitHead? rest).map fun (lines, rest) => (lineText line :: lines, rest)
termination_by bytes.length

/-- The status in the first line. -/
def statusOf? (line : List Char) : Option Nat :=
  match splitAtEach ' ' line with
  | version :: status :: _ =>
    if ['H', 'T', 'T', 'P', '/', '1', '.'].isPrefixOf version then parseDigits? status else none
  | _ => none

/-- A blank in a head. -/
def isBlank (c : Char) : Bool :=
  c = ' ' || c = '\t'

/-- A text without the blanks at its ends. -/
def trimBlanks (s : List Char) : List Char :=
  ((s.dropWhile isBlank).reverse.dropWhile isBlank).reverse

/-- The value of a header in lower case. Names of headers have no case. -/
def header? (name : String) (lines : List (List Char)) : Option (List Char) :=
  lines.findSome? fun line => do
    let (key, value) ← splitAtFirst? ':' line
    if key.map Char.toLower = name.toList then some ((trimBlanks value).map Char.toLower)
    else none

/-- The bytes of chunks, each behind a line with its length; a chunk of no bytes is the last.
Nothing if the last one has not come in. -/
def chunks? (bytes : List UInt8) : Option (List UInt8) :=
  match h : splitLine? bytes with
  | none => none
  | some (line, rest) =>
    match parseInBase? 16 ((lineText line).takeWhile fun c => c ≠ ';' && !isBlank c) with
    | none | some 0 => some []
    | some size =>
      have := length_of_splitLine? h
      if rest.length < size + 2 then none
      else (chunks? (rest.drop (size + 2))).map (rest.take size ++ ·)
termination_by bytes.length
decreasing_by
  rw [List.length_drop]
  omega

/-- What the bytes that have come in amount to; `ended` says that there will be no more. -/
def ofBytes (ended : Bool) (bytes : List UInt8) : Reception :=
  match splitHead? bytes with
  | none => if ended then .malformed else .incomplete
  | some ([], _) => .malformed
  | some (first :: headers, rest) =>
    match statusOf? first with
    | none => .malformed
    | some status =>
      let keepsOpen := !ended && header? "connection" headers ≠ some "close".toList
      let finish (body : List UInt8) : Reception := .complete ⟨status, body, keepsOpen⟩
      let wait : Reception := if ended then .malformed else .incomplete
      if status = 204 || status = 304 then finish []
      else if header? "transfer-encoding" headers = some "chunked".toList then
        ((chunks? rest).map finish).getD wait
      else
        match (header? "content-length" headers).bind parseDigits? with
        | some length => if rest.length < length then wait else finish (rest.take length)
        | none => if ended then finish rest else .incomplete

end Reception

end CouchLoad.Http
