import CouchLoad.Condition.Expr
import CouchLoad.Condition.Lexer
import CouchLoad.Condition.Parser

/-!
# Evaluating conditions

Both sides of an operator are evaluated from left to right, except that a disjunction or
conjunction stops as soon as its value is known. A remainder is never negative.
-/

namespace CouchLoad.Condition

/-- Why a condition has no value. -/
inductive EvalError where
  | counterOutOfRange
  | cannotNegate (kind : String)
  | expectedBoolean (found : Value)
  | moduloByZero
  | modNeedsIntegers (left right : String)
  | cannotCompare (left right : String)
  deriving DecidableEq, Repr

/-- The wording of the error. -/
def EvalError.message : EvalError → String
  | .counterOutOfRange => "doc_id_counter out of range"
  | .cannotNegate kind => s!"cannot negate {kind}"
  | .expectedBoolean found => s!"expected a boolean, got {found.kind} {found.display}"
  | .moduloByZero => "modulo by zero"
  | .modNeedsIntegers left right => s!"'%' needs integers, got {left} and {right}"
  | .cannotCompare left right => s!"cannot compare {left} with {right}"

/-- Why a condition does not hold or fail: it is no condition, or it has no truth value. -/
inductive Error where
  | lex (e : LexError)
  | parse (e : ParseError)
  | eval (e : EvalError)
  deriving DecidableEq, Repr

/-- The wording of the error. -/
def Error.message : Error → String
  | .lex e => e.message
  | .parse e => e.message
  | .eval e => e.message

/-- The value of a reference. The counter has to fit in the signed numbers of 64 bits. -/
def lookup (ctx : Context) : Reference → Except EvalError Value
  | .counter =>
    if ctx.counter < integerLimit then .ok (.int ctx.counter) else .error .counterOutOfRange
  | .dbPrefix => .ok (.string ctx.dbPrefix)
  | .userPrefix => .ok (.string ctx.userPrefix)

/-- Apply an operator to one value. -/
def UnaryOp.apply : UnaryOp → Value → Except EvalError Value
  | .not, .bool b => .ok (.bool !b)
  | .neg, .int n => .ok (.int (-n))
  | _, v => .error (.cannotNegate v.kind)

/-- The truth value that is wanted from a value. -/
def Value.toBool : Value → Except EvalError Bool
  | .bool b => .ok b
  | v => .error (.expectedBoolean v)

/-- Whether a comparison holds of two values that stand in the given order. -/
def Comparison.holds : Comparison → Ordering → Bool
  | .eq, o => o = .eq
  | .ne, o => o ≠ .eq
  | .lt, o => o = .lt
  | .le, o => o ≠ .gt
  | .gt, o => o = .gt
  | .ge, o => o ≠ .lt

/-- The order of two values of one kind; truth values have none. Strings are ordered by their
code points. -/
def Value.order? : Value → Value → Option Ordering
  | .int a, .int b => some (compare a b)
  | .string a, .string b => some (compare a b)
  | _, _ => none

/-- Compare two values. Truth values can only be equal or different. -/
def Comparison.apply (how : Comparison) (a b : Value) : Except EvalError Value :=
  match how, a, b with
  | .eq, .bool x, .bool y => .ok (.bool (x = y))
  | .ne, .bool x, .bool y => .ok (.bool (x ≠ y))
  | _, _, _ =>
    match a.order? b with
    | some o => .ok (.bool (how.holds o))
    | none => .error (.cannotCompare a.kind b.kind)

/-- The remainder of two values. -/
def Value.mod : Value → Value → Except EvalError Value
  | .int a, .int b => if b = 0 then .error .moduloByZero else .ok (.int (a % b))
  | a, b => .error (.modNeedsIntegers a.kind b.kind)

/-- The value of a condition. -/
def Expr.eval (ctx : Context) : Expr → Except EvalError Value
  | .literal v => .ok v
  | .var r => lookup ctx r
  | .unary op e => do op.apply (← e.eval ctx)
  | .binary .or left right => do
    if ← (← left.eval ctx).toBool then return .bool true
    return .bool (← (← right.eval ctx).toBool)
  | .binary .and left right => do
    if ← (← left.eval ctx).toBool then return .bool (← (← right.eval ctx).toBool)
    return .bool false
  | .binary (.compare how) left right => do
    let a ← left.eval ctx
    let b ← right.eval ctx
    how.apply a b
  | .binary .mod left right => do
    let a ← left.eval ctx
    let b ← right.eval ctx
    a.mod b

/-- The condition that a text is. -/
def parse (source : List Char) : Except Error Expr :=
  match lex source with
  | .error e => .error (.lex e)
  | .ok tokens => (parseTokens tokens).mapError .parse

/-- Whether a condition holds. -/
def Expr.holds (ctx : Context) (e : Expr) : Except Error Bool :=
  ((e.eval ctx).bind Value.toBool).mapError .eval

/-- Whether the condition that a text is holds. -/
def holds (ctx : Context) (source : List Char) : Except Error Bool := do
  (← parse source).holds ctx

end CouchLoad.Condition
