import CouchLoad.Condition.Eval

/-!
# Conditions in words

The integers of a condition are signed words of 64 bits, so a condition can also be evaluated with
every operation on them checked: the evaluation breaks off where a word cannot hold what comes of
the operation. What happens to integers on the way is recorded.
-/

namespace CouchLoad.Condition

/-- What a part of a condition evaluates to in words. -/
inductive WordValue where
  | int (n : Int64)
  | string (text : String)
  | bool (value : Bool)
  deriving DecidableEq, Repr

/-- The value that is held. -/
def WordValue.value : WordValue → Value
  | .int n => .int n.toInt
  | .string text => .string text
  | .bool b => .bool b

/-! ### Operations on words -/

/-- The word for an integer, if there is one. -/
def word? (n : Int) : Option Int64 :=
  if -(integerLimit : Int) ≤ n ∧ n < integerLimit then some (Int64.ofInt n) else none

/-- The negative of a word. The least word has none. -/
def negative? (n : Int64) : Option Int64 :=
  if n = Int64.minValue then none else some (-n)

/-- The remainder that is not negative, which is found from the one with the sign of `a`. There is
none if the quotient is no word. -/
def remainder? (a b : Int64) : Option Int64 :=
  if b = 0 ∨ a = Int64.minValue ∧ b = -1 then none
  else
    let r := a % b
    some (if 0 ≤ r then r else if b < 0 then r - b else r + b)

/-! ### Recorded evaluation -/

/-- What happens to integers. -/
inductive Event where
  /-- A part of the condition has the integer as its value. -/
  | integer (n : Int64)
  /-- The negative of an integer is taken. -/
  | negation (n : Int64)
  /-- The remainder of `a` by `b` is taken. -/
  | remainder (a b : Int64)
  deriving DecidableEq, Repr

/-- Why there is no value in words. -/
inductive Fault where
  | eval (e : EvalError)
  /-- A word cannot hold what comes of an operation. -/
  | overflow
  deriving DecidableEq, Repr

/-- What happens to integers, oldest first, and what comes of it. -/
structure Evaluation (α : Type) where
  events : List Event
  outcome : Except Fault α

namespace Evaluation

/-- Nothing happens. -/
def ofExcept {α : Type} (x : Except EvalError α) : Evaluation α :=
  ⟨[], x.mapError .eval⟩

/-- One evaluation after the other, unless the first one breaks off. -/
def andThen {α β : Type} (x : Evaluation α) (f : α → Evaluation β) : Evaluation β :=
  match x.outcome with
  | .ok a => ⟨x.events ++ (f a).events, (f a).outcome⟩
  | .error fault => ⟨x.events, .error fault⟩

instance : Monad Evaluation where
  pure a := ofExcept (.ok a)
  bind := andThen

/-- Something happens. -/
def record (event : Event) : Evaluation Unit :=
  ⟨[event], .ok ()⟩

/-- The value that a word is, if there is a word. -/
def integer : Option Int64 → Evaluation WordValue
  | some n => ⟨[.integer n], .ok (.int n)⟩
  | none => ⟨[], .error .overflow⟩

/-- A value in words. -/
def ofValue : Value → Evaluation WordValue
  | .int n => integer (word? n)
  | .string text => pure (.string text)
  | .bool b => pure (.bool b)

end Evaluation

open Evaluation

/-- Apply an operator to one value. -/
def UnaryOp.applyWords : UnaryOp → WordValue → Evaluation WordValue
  | .neg, .int n => do
    record (.negation n)
    integer (negative? n)
  | op, v => do ofValue (← ofExcept (op.apply v.value))

/-- The remainder of two values. -/
def WordValue.mod : WordValue → WordValue → Evaluation WordValue
  | .int a, .int b =>
    if b = 0 then ofExcept (.error .moduloByZero)
    else do
      record (.remainder a b)
      integer (remainder? a b)
  | a, b => do ofValue (← ofExcept (a.value.mod b.value))

/-- The value of a condition in words. -/
def Expr.evalWords (ctx : Context) : Expr → Evaluation WordValue
  | .literal v => ofValue v
  | .var r => do ofValue (← ofExcept (lookup ctx r))
  | .unary op e => do op.applyWords (← e.evalWords ctx)
  | .binary .or left right => do
    if ← ofExcept (← left.evalWords ctx).value.toBool then return .bool true
    return .bool (← ofExcept (← right.evalWords ctx).value.toBool)
  | .binary .and left right => do
    if ← ofExcept (← left.evalWords ctx).value.toBool then
      return .bool (← ofExcept (← right.evalWords ctx).value.toBool)
    return .bool false
  | .binary (.compare how) left right => do
    let a ← left.evalWords ctx
    let b ← right.evalWords ctx
    ofValue (← ofExcept (how.apply a.value b.value))
  | .binary .mod left right => do
    let a ← left.evalWords ctx
    let b ← right.evalWords ctx
    a.mod b

end CouchLoad.Condition
