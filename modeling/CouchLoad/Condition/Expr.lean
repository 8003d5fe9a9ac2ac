import CouchLoad.Context
import CouchLoad.Text.Unprintable

/-!
# Conditions as trees
-/

namespace CouchLoad.Condition

/-- What a part of a condition evaluates to. -/
inductive Value where
  | int (value : Int)
  | string (text : String)
  | bool (value : Bool)
  deriving DecidableEq, Repr

/-- The kind of a value, as messages name it. -/
def Value.kind : Value → String
  | .int _ => "integer"
  | .string _ => "string"
  | .bool _ => "boolean"

/-- A value as messages show it: strings in double quotes. -/
def Value.display : Value → String
  | .int n => String.ofList (Text.decimalInt n)
  | .string s => String.ofList (Text.quote s.toList)
  | .bool true => "true"
  | .bool false => "false"

/-- The operators with one operand. -/
inductive UnaryOp where
  | not
  | neg
  deriving DecidableEq, Repr

/-- How two values can be compared. -/
inductive Comparison where
  | eq
  | ne
  | lt
  | le
  | gt
  | ge
  deriving DecidableEq, Repr

/-- The operators with two operands. -/
inductive BinaryOp where
  | or
  | and
  | compare (how : Comparison)
  | mod
  deriving DecidableEq, Repr

/-- A condition. -/
inductive Expr where
  | literal (value : Value)
  | var (reference : Reference)
  | unary (op : UnaryOp) (operand : Expr)
  | binary (op : BinaryOp) (left right : Expr)
  deriving DecidableEq, Repr

end CouchLoad.Condition
