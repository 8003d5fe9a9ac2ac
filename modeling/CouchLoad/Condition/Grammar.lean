import CouchLoad.Condition.Outline

/-!
# The grammar of conditions

Which tokens form which part of a condition, and the tree that they stand for:

```text
or      := and ( "||" and )*
and     := cmp ( "&&" cmp )*
cmp     := mod ( ( "==" | "!=" | "<" | "<=" | ">" | ">=" ) mod )?
mod     := unary ( "%" unary )*
unary   := "!" unary | "-" unary | primary
primary := INT | STRING | "true" | "false" | NAME | "(" or ")"
```

A name is the name of a reference. Operands in a row are gathered to the left, and parentheses leave
nothing in the tree.
-/

namespace CouchLoad.Condition

/-- The parts of the grammar, from the loosest binding to the tightest. -/
inductive Level where
  | or
  | and
  | comparison
  | mod
  | unary
  | primary
  deriving DecidableEq, Repr

/-- The tokens of an operand and the tree that they stand for. -/
structure Operand where
  tokens : List Token
  tree : Expr

/-- The tokens of operands, with a sign in front of each of them. -/
def Operand.signed (sign : Operator) (more : List Operand) : List Token :=
  more.flatMap fun operand => .operator sign :: operand.tokens

/-- The tree of operands in a row behind a tree: the operator on the left binds first. -/
def Operand.gather (op : BinaryOp) (left : Expr) (more : List Operand) : Expr :=
  more.foldl (fun left operand => .binary op left operand.tree) left

/-- Some tokens form a part of a condition, which stands for a tree. -/
inductive Derives : Level → List Token → Expr → Prop where
  | or {first : Operand} {more : List Operand}
      (h : ∀ operand ∈ first :: more, Derives .and operand.tokens operand.tree) :
      Derives .or (first.tokens ++ Operand.signed .or more) (Operand.gather .or first.tree more)
  | and {first : Operand} {more : List Operand}
      (h : ∀ operand ∈ first :: more, Derives .comparison operand.tokens operand.tree) :
      Derives .and (first.tokens ++ Operand.signed .and more) (Operand.gather .and first.tree more)
  | compare {left right : Operand} (how : Comparison) (hleft : Derives .mod left.tokens left.tree)
      (hright : Derives .mod right.tokens right.tree) :
      Derives .comparison (left.tokens ++ .operator how.sign :: right.tokens)
        (.binary (.compare how) left.tree right.tree)
  | uncompared {tokens : List Token} {e : Expr} (h : Derives .mod tokens e) :
      Derives .comparison tokens e
  | mod {first : Operand} {more : List Operand}
      (h : ∀ operand ∈ first :: more, Derives .unary operand.tokens operand.tree) :
      Derives .mod (first.tokens ++ Operand.signed .mod more) (Operand.gather .mod first.tree more)
  | not {tokens : List Token} {e : Expr} (h : Derives .unary tokens e) :
      Derives .unary (.operator .not :: tokens) (.unary .not e)
  | neg {tokens : List Token} {e : Expr} (h : Derives .unary tokens e) :
      Derives .unary (.operator .minus :: tokens) (.unary .neg e)
  | unsigned {tokens : List Token} {e : Expr} (h : Derives .primary tokens e) :
      Derives .unary tokens e
  | int (n : Nat) : Derives .primary [.int n] (.literal (.int n))
  | string (text : String) : Derives .primary [.string text] (.literal (.string text))
  | true : Derives .primary [.name "true"] (.literal (.bool Bool.true))
  | false : Derives .primary [.name "false"] (.literal (.bool Bool.false))
  | var (r : Reference) : Derives .primary [.name r.name] (.var r)
  | parentheses {tokens : List Token} {e : Expr} (h : Derives .or tokens e) :
      Derives .primary (.opening :: tokens ++ [.closing]) e

end CouchLoad.Condition
