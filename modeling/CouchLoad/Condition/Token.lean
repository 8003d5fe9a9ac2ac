/-!
# Tokens of conditions
-/

namespace CouchLoad.Condition

/-- The operators; two of them stand in front of one operand. -/
inductive Operator where
  | or
  | and
  | eq
  | ne
  | lt
  | le
  | gt
  | ge
  | mod
  | not
  | minus
  deriving DecidableEq, Repr

/-- How an operator is written. -/
def Operator.symbol : Operator → String
  | .or => "||"
  | .and => "&&"
  | .eq => "=="
  | .ne => "!="
  | .lt => "<"
  | .le => "<="
  | .gt => ">"
  | .ge => ">="
  | .mod => "%"
  | .not => "!"
  | .minus => "-"

/-- The operator of two characters, if they form one. -/
def Operator.ofPair? : Char → Char → Option Operator
  | '=', '=' => some .eq
  | '!', '=' => some .ne
  | '<', '=' => some .le
  | '>', '=' => some .ge
  | '&', '&' => some .and
  | '|', '|' => some .or
  | _, _ => none

/-- The operator of one character, if there is one. -/
def Operator.ofChar? : Char → Option Operator
  | '<' => some .lt
  | '>' => some .gt
  | '!' => some .not
  | '%' => some .mod
  | '-' => some .minus
  | _ => none

/-- A token of a condition. -/
inductive Token where
  | int (value : Nat)
  | string (text : String)
  | name (text : String)
  | operator (op : Operator)
  | opening
  | closing
  deriving DecidableEq, Repr

end CouchLoad.Condition
