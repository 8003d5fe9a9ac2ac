import CouchLoad.Condition.Expr
import CouchLoad.Condition.Token

/-!
# Reading conditions

The grammar, from the loosest binding to the tightest:

```text
or      := and ( "||" and )*
and     := cmp ( "&&" cmp )*
cmp     := mod ( ( "==" | "!=" | "<" | "<=" | ">" | ">=" ) mod )?
mod     := unary ( "%" unary )*
unary   := "!" unary | "-" unary | primary
primary := INT | STRING | "true" | "false" | NAME | "(" or ")"
```

The recursion of the reader follows the parentheses that can still be opened, of which there are
no more than tokens.
-/

namespace CouchLoad.Condition

/-- Why a list of tokens is no condition. -/
inductive ParseError where
  | unknownVariable (name : String)
  | expectedClosing
  | unexpectedClosing
  | unexpectedOperator (op : Operator)
  | unexpectedEnd
  | trailingInput
  deriving DecidableEq, Repr

/-- The wording of the error. -/
def ParseError.message : ParseError → String
  | .unknownVariable name => s!"unknown variable '{name}'"
  | .expectedClosing => "expected ')'"
  | .unexpectedClosing => "unexpected ')'"
  | .unexpectedOperator op => s!"unexpected operator '{op.symbol}'"
  | .unexpectedEnd => "unexpected end of expression"
  | .trailingInput => "trailing input"

/-- A reader of one part of the grammar: it returns the tree and the tokens behind it. -/
abbrev Rule := List Token → Except ParseError (Expr × List Token)

/-- The tree of a name. -/
def Expr.ofName? (name : String) : Option Expr :=
  if name = "true" then some (.literal (.bool true))
  else if name = "false" then some (.literal (.bool false))
  else (Reference.ofName? name.toList).map .var

/-- The comparison that an operator stands for. -/
def Comparison.ofOperator? : Operator → Option Comparison
  | .eq => some .eq
  | .ne => some .ne
  | .lt => some .lt
  | .le => some .le
  | .gt => some .gt
  | .ge => some .ge
  | _ => none

/-- A literal, a name, or a condition in parentheses, which `inner` reads. -/
def primary (inner : Rule) : Rule
  | .int n :: rest => .ok (.literal (.int n), rest)
  | .string s :: rest => .ok (.literal (.string s), rest)
  | .name name :: rest =>
    match Expr.ofName? name with
    | some e => .ok (e, rest)
    | none => .error (.unknownVariable name)
  | .opening :: rest => do
    match ← inner rest with
    | (e, .closing :: rest) => return (e, rest)
    | _ => throw .expectedClosing
  | .closing :: _ => .error .unexpectedClosing
  | .operator op :: _ => .error (.unexpectedOperator op)
  | [] => .error .unexpectedEnd

/-- Operators in front of a primary condition; the nearest binds first. -/
def unary (inner : Rule) : Rule
  | .operator .not :: rest => (unary inner rest).map fun (e, rest) => (.unary .not e, rest)
  | .operator .minus :: rest => (unary inner rest).map fun (e, rest) => (.unary .neg e, rest)
  | tokens => primary inner tokens

/-- More operands behind `left`, each after the operator `sign`, gathered to the left. The fuel
counts the tokens. -/
def chainFrom (sign : Operator) (op : BinaryOp) (operand : Rule) :
    Nat → Expr → List Token → Except ParseError (Expr × List Token)
  | fuel + 1, left, .operator found :: rest =>
    if found = sign then do
      let (right, rest) ← operand rest
      chainFrom sign op operand fuel (.binary op left right) rest
    else .ok (left, .operator found :: rest)
  | _, left, tokens => .ok (left, tokens)

/-- Operands with the operator `sign` between them. -/
def chain (sign : Operator) (op : BinaryOp) (operand : Rule) : Rule := fun tokens => do
  let (left, rest) ← operand tokens
  chainFrom sign op operand rest.length left rest

/-- One operand, or two with a comparison between them. -/
def comparison (operand : Rule) : Rule := fun tokens => do
  let (left, rest) ← operand tokens
  match rest with
  | .operator op :: more =>
    match Comparison.ofOperator? op with
    | some how =>
      let (right, rest) ← operand more
      return (.binary (.compare how) left right, rest)
    | none => return (left, rest)
  | _ => return (left, rest)

/-- A condition in which at most `depth` parentheses are open at once. -/
def condition : Nat → Rule
  | 0 => fun _ => .error .unexpectedEnd
  | depth + 1 =>
    chain .or .or <| chain .and .and <| comparison <| chain .mod .mod <| unary (condition depth)

/-- The condition that a list of tokens forms. -/
def parseTokens (tokens : List Token) : Except ParseError Expr := do
  match ← condition (tokens.length + 1) tokens with
  | (e, []) => return e
  | _ => throw .trailingInput

end CouchLoad.Condition
