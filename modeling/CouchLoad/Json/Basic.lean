import CouchLoad.Table

/-!
# JSON values

Objects keep the order of their members. A number is a whole number of at most 64 bits or a
double; the latter is kept as its bits, so that equal values are equal terms.
-/

namespace CouchLoad

/-- A JSON number. -/
inductive Number where
  | whole (value : Int)
  | double (bits : UInt64)
  deriving DecidableEq, Repr

/-- A JSON value. -/
inductive Json where
  | null
  | bool (value : Bool)
  | number (value : Number)
  | string (text : String)
  | array (items : List Json)
  | object (members : List (String × Json))
  deriving Inhabited, Repr

namespace Json

mutual

/-- Whether two values are equal, the order of members included. -/
def decEq : (a b : Json) → Decidable (a = b)
  | .null, .null => isTrue rfl
  | .bool a, .bool b => decidable_of_iff (a = b) (by simp)
  | .number a, .number b => decidable_of_iff (a = b) (by simp)
  | .string a, .string b => decidable_of_iff (a = b) (by simp)
  | .array a, .array b =>
    have := decEqItems a b
    decidable_of_iff (a = b) (by simp)
  | .object a, .object b =>
    have := decEqMembers a b
    decidable_of_iff (a = b) (by simp)
  | .null, .bool _ | .null, .number _ | .null, .string _ | .null, .array _ | .null, .object _
  | .bool _, .null | .bool _, .number _ | .bool _, .string _ | .bool _, .array _
  | .bool _, .object _ | .number _, .null | .number _, .bool _ | .number _, .string _
  | .number _, .array _ | .number _, .object _ | .string _, .null | .string _, .bool _
  | .string _, .number _ | .string _, .array _ | .string _, .object _ | .array _, .null
  | .array _, .bool _ | .array _, .number _ | .array _, .string _ | .array _, .object _
  | .object _, .null | .object _, .bool _ | .object _, .number _ | .object _, .string _
  | .object _, .array _ => isFalse (by simp)

/-- Whether two lists of values are equal. -/
def decEqItems : (a b : List Json) → Decidable (a = b)
  | [], [] => isTrue rfl
  | [], _ :: _ | _ :: _, [] => isFalse (by simp)
  | x :: xs, y :: ys =>
    have := decEq x y
    have := decEqItems xs ys
    decidable_of_iff (x = y ∧ xs = ys) (by simp)

/-- Whether two lists of members are equal. -/
def decEqMembers : (a b : List (String × Json)) → Decidable (a = b)
  | [], [] => isTrue rfl
  | [], _ :: _ | _ :: _, [] => isFalse (by simp)
  | (k, x) :: xs, (l, y) :: ys =>
    have := decEq x y
    have := decEqMembers xs ys
    decidable_of_iff (k = l ∧ x = y ∧ xs = ys) (by simp [and_assoc])

end

instance : DecidableEq Json := decEq

/-- The member of an object; null for an absent member and for any other value. -/
def field (v : Json) (name : String) : Json :=
  match v with
  | .object members => (Table.get? members name).getD .null
  | _ => .null

/-- The text of a string value. -/
def string? : Json → Option String
  | .string text => some text
  | _ => none

/-- The truth value of a boolean. -/
def bool? : Json → Option Bool
  | .bool value => some value
  | _ => none

/-- The items of an array. -/
def array? : Json → Option (List Json)
  | .array items => some items
  | _ => none

/-- The members of an object. -/
def object? : Json → Option (Table Json)
  | .object members => some members
  | _ => none

/-! ### Faults of texts -/

/-- Why a text is not JSON. -/
inductive ReadError where
  | unexpectedEnd
  | unexpectedCharacter (c : Char)
  | invalidNumber
  | numberOutOfRange
  | invalidEscape
  | loneSurrogate
  | controlCharacter
  | nestedTooDeeply
  | trailingCharacters
  deriving DecidableEq, Repr

/-- The wording of a fault. -/
def ReadError.message : ReadError → String
  | .unexpectedEnd => "unexpected end of the text"
  | .unexpectedCharacter c => s!"unexpected character {c}"
  | .invalidNumber => "invalid number"
  | .numberOutOfRange => "number out of range"
  | .invalidEscape => "invalid escape"
  | .loneSurrogate => "lone surrogate in an escape"
  | .controlCharacter => "control character in a string"
  | .nestedTooDeeply => "arrays and objects are nested too deeply"
  | .trailingCharacters => "trailing characters"

end Json

end CouchLoad
