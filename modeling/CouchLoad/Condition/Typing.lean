import CouchLoad.Condition.Expr

/-!
# The types of conditions

The type of a condition can be told without a context: the counter is an integer, the prefixes are
strings, and every operator asks for operands of certain types. Truth values have no order.
-/

namespace CouchLoad.Condition

/-- The types of values. -/
inductive ValueType where
  | int
  | string
  | bool
  deriving DecidableEq, Repr

/-- The type of a value. -/
def Value.type : Value → ValueType
  | .int _ => .int
  | .string _ => .string
  | .bool _ => .bool

/-- The type of what a reference stands for. -/
def lookupType : Reference → ValueType
  | .counter => .int
  | .dbPrefix | .userPrefix => .string

/-- The type that an operator takes and gives. -/
def UnaryOp.type : UnaryOp → ValueType
  | .not => .bool
  | .neg => .int

/-- Values of the type can be compared in this way. -/
def Comparison.Takes : Comparison → ValueType → Prop
  | .eq, _ | .ne, _ => True
  | .lt, t | .le, t | .gt, t | .ge, t => t = .int ∨ t = .string

instance (how : Comparison) (t : ValueType) : Decidable (how.Takes t) := by
  cases how <;> unfold Comparison.Takes <;> infer_instance

/-- A condition has a type. -/
inductive HasType : Expr → ValueType → Prop where
  | literal (v : Value) : HasType (.literal v) v.type
  | var (r : Reference) : HasType (.var r) (lookupType r)
  | unary (op : UnaryOp) {e : Expr} (h : HasType e op.type) : HasType (.unary op e) op.type
  | or {left right : Expr} (hleft : HasType left .bool) (hright : HasType right .bool) :
      HasType (.binary .or left right) .bool
  | and {left right : Expr} (hleft : HasType left .bool) (hright : HasType right .bool) :
      HasType (.binary .and left right) .bool
  | compare {how : Comparison} {t : ValueType} (h : how.Takes t) {left right : Expr}
      (hleft : HasType left t) (hright : HasType right t) :
      HasType (.binary (.compare how) left right) .bool
  | mod {left right : Expr} (hleft : HasType left .int) (hright : HasType right .int) :
      HasType (.binary .mod left right) .int

/-- The type of what an operator gives for operands of two types, if it takes them. -/
def BinaryOp.type? : BinaryOp → ValueType → ValueType → Option ValueType
  | .or, .bool, .bool | .and, .bool, .bool => some .bool
  | .compare how, t, t' => if t = t' ∧ how.Takes t then some .bool else none
  | .mod, .int, .int => some .int
  | _, _, _ => none

/-- The type of a condition, if it has one. -/
def Expr.type? : Expr → Option ValueType
  | .literal v => some v.type
  | .var r => some (lookupType r)
  | .unary op e => if e.type? = some op.type then some op.type else none
  | .binary op left right => do op.type? (← left.type?) (← right.type?)

/-- Somewhere in the condition a remainder is taken. -/
def Expr.takesRemainder : Expr → Bool
  | .literal _ | .var _ => false
  | .unary _ e => e.takesRemainder
  | .binary op left right => op = .mod || left.takesRemainder || right.takesRemainder

/-- Somewhere in the condition the counter is looked up. -/
def Expr.usesCounter : Expr → Bool
  | .literal _ => false
  | .var r => r = .counter
  | .unary _ e => e.usesCounter
  | .binary _ left right => left.usesCounter || right.usesCounter

end CouchLoad.Condition
