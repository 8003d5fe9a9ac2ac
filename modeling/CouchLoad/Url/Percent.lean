import CouchLoad.Text.Numeral
import CouchLoad.Text.Utf8

/-!
# Percent encoding

A character that may not stand in some part of a URL is written byte by byte, each byte as a
percent sign and two hexadecimal digits. Which characters may stand differs from part to part.
-/

namespace CouchLoad.Url

open Text

/-- The percent form of a byte. -/
def percentByte (b : UInt8) : List Char :=
  '%' :: (hex 2 b.toNat).map Char.toUpper

/-- Write the characters that `keep` refuses in percent form. -/
def percentEncode (keep : Char → Bool) (s : List Char) : List Char :=
  s.flatMap fun c => if keep c then [c] else (utf8Encode [c]).flatMap percentByte

/-- The bytes of a text in which percent forms stand for bytes. A percent sign that starts no
percent form stands for itself. -/
def percentDecode : List Char → List UInt8
  | [] => []
  | '%' :: a :: b :: s =>
    match hexValue? a, hexValue? b with
    | some x, some y => (16 * x + y).toUInt8 :: percentDecode s
    | _, _ => utf8Encode ['%'] ++ percentDecode (a :: b :: s)
  | c :: s => utf8Encode [c] ++ percentDecode s

/-- Whether a character is a graphic ASCII character. -/
def isGraphic (c : Char) : Bool :=
  0x20 < c.toNat && c.toNat < 0x7f

/-- What may stand in a query that is taken as it is. -/
def inQuery (c : Char) : Bool :=
  isGraphic c && !(['"', '#', '<', '>', '\''].contains c)

/-- What may stand in a fragment. -/
def inFragment (c : Char) : Bool :=
  isGraphic c && !(['"', '<', '>', '\x60'].contains c)

/-- What may stand in a path that is taken as it is. -/
def inPath (c : Char) : Bool :=
  inFragment c && !(['#', '?', '\x7b', '\x7d'].contains c)

/-- What may stand in one segment of a path. -/
def inSegment (c : Char) : Bool :=
  inPath c && !(['/', '%', '\\'].contains c)

/-- What may stand in the name or the password of a user. -/
def inUserinfo (c : Char) : Bool :=
  inPath c && !(['/', ':', ';', '=', '@', '[', '\\', ']', '^', '|'].contains c)

/-- What may stand in a name or a value of a form. -/
def inForm (c : Char) : Bool :=
  c.isAlphanum || ['*', '-', '.', '_'].contains c

/-- The form-encoded text of a name or a value: a space becomes a plus sign. -/
def formEncode (s : List Char) : List Char :=
  s.flatMap fun c => if c = ' ' then ['+'] else percentEncode inForm [c]

/-- The form-encoded text of a list of pairs. -/
def formPairs (pairs : List (String × String)) : List Char :=
  List.intercalate ['&'] <| pairs.map fun (name, value) =>
    formEncode name.toList ++ '=' :: formEncode value.toList

end CouchLoad.Url
