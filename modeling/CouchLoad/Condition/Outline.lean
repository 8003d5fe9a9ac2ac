import CouchLoad.Condition.Expr
import CouchLoad.Condition.Token
import CouchLoad.Json.Writer

/-!
# Conditions in brackets

The structure of a condition is made visible by writing every operator in front of its operands
and brackets around them. References are marked by a dollar sign and strings are written as in
JSON.
-/

namespace CouchLoad.Condition

/-- The sign of a comparison. -/
def Comparison.sign : Comparison → Operator
  | .eq => .eq
  | .ne => .ne
  | .lt => .lt
  | .le => .le
  | .gt => .gt
  | .ge => .ge

/-- The sign of an operator with two operands. -/
def BinaryOp.sign : BinaryOp → Operator
  | .or => .or
  | .and => .and
  | .compare how => how.sign
  | .mod => .mod

/-- The name of an operator with one operand. -/
def UnaryOp.name : UnaryOp → String
  | .not => Operator.not.symbol
  | .neg => "neg"

/-- A condition with its operators in front and brackets around every one of them. -/
def Expr.outline : Expr → String
  | .literal (.string s) => (Json.string s).toText
  | .literal v => v.display
  | .var r => "$" ++ r.name
  | .unary op e => s!"({op.name} {e.outline})"
  | .binary op l r => s!"({op.sign.symbol} {l.outline} {r.outline})"

end CouchLoad.Condition
