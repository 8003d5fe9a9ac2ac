import CouchLoad.Condition.Words
import CouchLoad.Proofs.Condition.Parsing
import Mathlib.Algebra.Order.Group.Unbundled.Int

/-!
# Words are enough for conditions

The integers of a condition that has been read never come to the least word, because literals are
not negative and neither a change of the sign nor a remainder leads there. So every operation on
words has a result, and the evaluation in words comes to what the evaluation with integers comes to.
-/

namespace CouchLoad.Condition

/-! ### Operations -/

lemma toInt_negative {n : Int64} (h : -2 ^ 63 < n.toInt) : (-n).toInt = -n.toInt := by
  have := n.toInt_lt
  rw [Int64.toInt_neg, Int.bmod_eq_of_le (by omega) (by omega)]

lemma negative?_eq {n : Int64} (h : -2 ^ 63 < n.toInt) : negative? n = some (-n) := by
  refine if_neg fun hmin => ?_
  rw [hmin, Int64.toInt_minValue] at h
  exact absurd h (by omega)

/-- A remainder that is negative lies below the one that is not by the size of `b`. -/
lemma tmod_cases (a : Int) {b : Int} (hb : b ≠ 0) :
    0 ≤ a.tmod b ∧ a.tmod b = a % b ∨ a.tmod b < 0 ∧ a.tmod b + b.natAbs = a % b := by
  have hlow := Int.emod_nonneg a hb
  have hhigh := Int.emod_lt a hb
  rw [Int.tmod_eq_emod]
  split
  · left
    omega
  · right
    omega

/-- The remainder in words is the remainder of the integers. -/
lemma toInt_remainder? {a b r : Int64} (h : remainder? a b = some r) :
    r.toInt = a.toInt % b.toInt := by
  unfold remainder? at h
  split at h
  · cases h
  · rename_i hfits
    have hb : b.toInt ≠ 0 := fun hzero => hfits (.inl (Int64.toInt_inj.1 hzero))
    have hlow := Int.emod_nonneg a.toInt hb
    have hhigh := Int.emod_lt a.toInt hb
    have hblow := b.le_toInt
    have hbhigh := b.toInt_lt
    have hcases := tmod_cases a.toInt hb
    simp only [Int64.le_iff_toInt_le, Int64.lt_iff_toInt_lt, Int64.toInt_zero, Int64.toInt_mod,
      Option.some.injEq] at h
    split_ifs at h with hnonneg hneg
    · rw [← h, Int64.toInt_mod]
      omega
    · rw [← h, Int64.toInt_sub, Int64.toInt_mod, Int.bmod_eq_of_le (by omega) (by omega)]
      omega
    · rw [← h, Int64.toInt_add, Int64.toInt_mod, Int.bmod_eq_of_le (by omega) (by omega)]
      omega

/-! ### Evaluation in words beside evaluation with integers -/

/-- What happens to integers goes well. An integer that comes up is not the least word; the negative
and the remainder that are taken are words, and they are those of the integers. -/
def Event.Safe : Event → Prop
  | .integer n => -(2 ^ 63 - 1) ≤ n.toInt ∧ n.toInt ≤ 2 ^ 63 - 1
  | .negation n => ∃ m, negative? n = some m ∧ m.toInt = -n.toInt
  | .remainder a b => b ≠ 0 ∧ ¬(a = Int64.minValue ∧ b = -1) ∧
      ∃ r, remainder? a b = some r ∧ r.toInt = a.toInt % b.toInt ∧ 0 ≤ r.toInt ∧ r.toInt < |b.toInt|

/-- The least word is not among the integers of a value. -/
def Value.FitsWords (v : Value) : Prop :=
  ∀ n, v = .int n → -(2 ^ 63 - 1) ≤ n ∧ n ≤ 2 ^ 63 - 1

/-- The value is held in words, and it is not the least one. -/
structure WordValue.Holds (w : WordValue) (v : Value) : Prop where
  value : w.value = v
  fits : v.FitsWords

/-- An evaluation in words goes well and comes to what an evaluation with integers comes to. -/
structure Evaluation.Follows {α β : Type} (R : α → β → Prop) (x : Evaluation α)
    (y : Except EvalError β) : Prop where
  safe : ∀ event ∈ x.events, event.Safe
  ok : ∀ b, y = .ok b → ∃ a, x.outcome = .ok a ∧ R a b
  error : ∀ e, y = .error e → x.outcome = .error (.eval e)

namespace Evaluation

variable {α β γ δ : Type} {R : α → β → Prop} {S : γ → δ → Prop}

lemma follows_pure {a : α} {b : β} (h : R a b) :
    Follows R (pure a : Evaluation α) (.ok b) where
  safe := by simp [pure, ofExcept]
  ok := by
    rintro b' ⟨⟩
    exact ⟨a, rfl, h⟩
  error := by simp

lemma follows_ofExcept (x : Except EvalError α) :
    Follows (fun a b => a = b ∧ x = .ok b) (ofExcept x) x where
  safe := by simp [ofExcept]
  ok := by
    rintro a rfl
    exact ⟨a, rfl, rfl, rfl⟩
  error := by
    rintro e rfl
    rfl

/-- Evaluations that follow each other step by step follow each other as a whole. -/
lemma Follows.bind {x : Evaluation α} {y : Except EvalError β} {f : α → Evaluation γ}
    {g : β → Except EvalError δ} (h : Follows R x y) (hf : ∀ a b, R a b → Follows S (f a) (g b)) :
    Follows S (x >>= f) (y >>= g) := by
  cases y with
  | error e =>
    have hx : x >>= f = ⟨x.events, .error (.eval e)⟩ := by
      show x.andThen f = _
      rw [andThen, h.error e rfl]
    rw [hx]
    exact ⟨h.safe, by simp [Bind.bind, Except.bind], by simp [Bind.bind, Except.bind]⟩
  | ok b =>
    obtain ⟨a, ha, hR⟩ := h.ok b rfl
    have hx : x >>= f = ⟨x.events ++ (f a).events, (f a).outcome⟩ := by
      show x.andThen f = _
      rw [andThen, ha]
    have hnext := hf a b hR
    rw [hx]
    refine ⟨?_, hnext.ok, hnext.error⟩
    exact List.forall_mem_append.2 ⟨h.safe, hnext.safe⟩

/-- An integer that is not the least word comes up safely. -/
lemma follows_integer {n : Int64} (h : Event.Safe (.integer n)) :
    Follows WordValue.Holds (integer (some n)) (.ok (.int n.toInt)) where
  safe := by simpa [integer] using h
  ok := by
    rintro v ⟨⟩
    refine ⟨.int n, rfl, rfl, ?_⟩
    rintro _ ⟨⟩
    exact h
  error := by simp

lemma follows_ofValue {v : Value} (h : v.FitsWords) :
    Follows WordValue.Holds (ofValue v) (.ok v) := by
  cases v with
  | int n =>
    obtain ⟨hlow, hhigh⟩ := h n rfl
    have hword : (Int64.ofInt n).toInt = n := Int64.toInt_ofInt_of_le (by omega) (by omega)
    have hsome : word? n = some (Int64.ofInt n) := by
      refine if_pos ⟨?_, ?_⟩ <;> simp only [integerLimit] <;> omega
    rw [ofValue, hsome]
    have hfollows := follows_integer (n := Int64.ofInt n) (by rw [Event.Safe, hword]; omega)
    rwa [hword] at hfollows
  | string text => exact follows_pure ⟨rfl, h⟩
  | bool b => exact follows_pure ⟨rfl, h⟩

/-- A value that is found without words is put into words. -/
lemma follows_found {x : Except EvalError Value} (h : ∀ v, x = .ok v → v.FitsWords) :
    Follows WordValue.Holds (ofExcept x >>= ofValue) x := by
  have hfollows : Follows WordValue.Holds (ofExcept x >>= ofValue) (x >>= .ok) := by
    refine (follows_ofExcept x).bind ?_
    rintro _ v ⟨rfl, hv⟩
    exact follows_ofValue (h _ hv)
  cases x <;> exact hfollows

/-- An operation that goes well has the integer that comes of it as its value. -/
lemma follows_operation {event : Event} {found : Option Int64} {m : Int64} (hevent : event.Safe)
    (hfound : found = some m) (hm : Event.Safe (.integer m)) :
    Follows WordValue.Holds (record event >>= fun _ => integer found) (.ok (.int m.toInt)) := by
  rw [hfound]
  obtain ⟨hsafe, hok, herror⟩ := follows_integer hm
  exact ⟨List.forall_mem_cons.2 ⟨hevent, hsafe⟩, hok, herror⟩

end Evaluation

open Evaluation

/-- Comparisons have truth values. -/
lemma exists_bool_of_compare {how : Comparison} {a b v : Value} (h : how.apply a b = .ok v) :
    ∃ c, v = .bool c := by
  unfold Comparison.apply at h
  split at h
  · cases h
    exact ⟨_, rfl⟩
  · cases h
    exact ⟨_, rfl⟩
  · split at h
    · cases h
      exact ⟨_, rfl⟩
    · cases h

lemma fitsWords_bool (b : Bool) : Value.FitsWords (.bool b) := by simp [Value.FitsWords]

lemma safe_negation {n : Int64} (h : Event.Safe (.integer n)) : Event.Safe (.negation n) := by
  have hleast : -2 ^ 63 < n.toInt := by
    have := h.1
    omega
  exact ⟨-n, negative?_eq hleast, toInt_negative hleast⟩

lemma safe_remainder {a b : Int64} (ha : Event.Safe (.integer a)) (hb : b ≠ 0) :
    Event.Safe (.remainder a b) := by
  have hleast : ¬(a = Int64.minValue ∧ b = -1) := by
    rintro ⟨rfl, -⟩
    have := ha.1
    rw [Int64.toInt_minValue] at this
    omega
  have hzero : b.toInt ≠ 0 := fun hzero => hb (Int64.toInt_inj.1 hzero)
  obtain ⟨r, hr⟩ : ∃ r, remainder? a b = some r :=
    ⟨_, if_neg (not_or.2 ⟨hb, hleast⟩)⟩
  have hmod := toInt_remainder? hr
  refine ⟨hb, hleast, r, hr, hmod, ?_, ?_⟩
  · rw [hmod]
    exact Int.emod_nonneg _ hzero
  · rw [hmod]
    exact Int.emod_lt_abs _ hzero

lemma follows_lookup (ctx : Context) (r : Reference) :
    Follows WordValue.Holds (ofExcept (lookup ctx r) >>= ofValue) (lookup ctx r) := by
  apply follows_found
  intro v hv n hn
  subst hn
  cases r with
  | counter =>
    rw [lookup] at hv
    split at hv
    · rename_i hcounter
      cases hv
      unfold integerLimit at hcounter
      omega
    · cases hv
  | dbPrefix => cases hv
  | userPrefix => cases hv

lemma follows_applyWords (op : UnaryOp) {w : WordValue} {v : Value} (h : w.Holds v) :
    Follows WordValue.Holds (op.applyWords w) (op.apply v) := by
  obtain ⟨rfl, hfits⟩ := h
  cases op with
  | not =>
    apply follows_found
    cases w <;> simp [WordValue.value, UnaryOp.apply, fitsWords_bool]
  | neg =>
    cases w with
    | int n =>
      have hsafe : Event.Safe (.integer n) := hfits _ rfl
      obtain ⟨m, hm, hneg⟩ := safe_negation hsafe
      have hsafe' : Event.Safe (.integer m) := by
        obtain ⟨hlow, hhigh⟩ := hsafe
        constructor <;> omega
      have hfollows := follows_operation (safe_negation hsafe) hm hsafe'
      rwa [hneg] at hfollows
    | string text => exact follows_found (by simp [WordValue.value, UnaryOp.apply])
    | bool b => exact follows_found (by simp [WordValue.value, UnaryOp.apply])

lemma follows_mod {w w' : WordValue} {v v' : Value} (h : w.Holds v) (h' : w'.Holds v') :
    Follows WordValue.Holds (w.mod w') (v.mod v') := by
  obtain ⟨rfl, hfits⟩ := h
  obtain ⟨rfl, hfits'⟩ := h'
  cases w with
  | int a =>
    cases w' with
    | int b =>
      by_cases hb : b = 0
      · subst hb
        exact follows_found (x := .error .moduloByZero) (by simp)
      · have hsafe : Event.Safe (.integer b) := hfits' _ rfl
        have hremainder := safe_remainder (hfits _ rfl) hb
        have ⟨_, _, r, hr, hmod, hlow, hhigh⟩ := hremainder
        have hsafe' : Event.Safe (.integer r) := by
          rw [Int.abs_eq_natAbs] at hhigh
          obtain ⟨hblow, hbhigh⟩ := hsafe
          constructor <;> omega
        have hzero : b.toInt ≠ 0 := fun hzero => hb (Int64.toInt_inj.1 hzero)
        have hfollows := follows_operation hremainder hr hsafe'
        rw [hmod] at hfollows
        simpa only [WordValue.mod, if_neg hb, WordValue.value, Value.mod, if_neg hzero]
          using hfollows
    | string text => exact follows_found (by simp [WordValue.value, Value.mod])
    | bool b => exact follows_found (by simp [WordValue.value, Value.mod])
  | string text => exact follows_found (by simp [WordValue.value, Value.mod])
  | bool b => exact follows_found (by simp [WordValue.value, Value.mod])

lemma follows_compare (how : Comparison) {w w' : WordValue} {v v' : Value} (h : w.Holds v)
    (h' : w'.Holds v') :
    Follows WordValue.Holds (ofExcept (how.apply w.value w'.value) >>= ofValue)
      (how.apply v v') := by
  obtain ⟨rfl, -⟩ := h
  obtain ⟨rfl, -⟩ := h'
  apply follows_found
  intro v hv
  obtain ⟨b, rfl⟩ := exists_bool_of_compare hv
  exact fitsWords_bool b

lemma follows_toBool {w : WordValue} {v : Value} (h : w.Holds v) :
    Follows (fun a b => a = b ∧ v.toBool = .ok b) (ofExcept w.value.toBool) v.toBool := by
  rw [h.value]
  exact follows_ofExcept v.toBool

/-- The second condition of two of which the first one does not settle the outcome. -/
lemma follows_truth {x : Evaluation WordValue} {y : Except EvalError Value}
    (h : Follows WordValue.Holds x y) :
    Follows WordValue.Holds
      (do return .bool (← ofExcept (← x).value.toBool)) (do return .bool (← (← y).toBool)) := by
  refine h.bind fun w v hw => (follows_toBool hw).bind fun b _ hb => ?_
  obtain rfl := hb.1
  exact follows_pure ⟨rfl, fitsWords_bool b⟩

/-! ### Literals -/

/-- The integer literals of a condition are neither negative nor beyond the limit. -/
def Expr.LiteralsFit : Expr → Prop
  | .literal (.int n) => 0 ≤ n ∧ n < integerLimit
  | .literal (.string _) | .literal (.bool _) | .var _ => True
  | .unary _ e => e.LiteralsFit
  | .binary _ left right => left.LiteralsFit ∧ right.LiteralsFit

/-- In words a condition is evaluated as with integers, and everything goes well. -/
lemma follows_evalWords {e : Expr} (h : e.LiteralsFit) (ctx : Context) :
    Follows WordValue.Holds (e.evalWords ctx) (e.eval ctx) := by
  induction e with
  | literal v =>
    refine follows_ofValue ?_
    rintro n rfl
    unfold Expr.LiteralsFit integerLimit at h
    omega
  | var r => exact follows_lookup ctx r
  | unary op e ih => exact (ih h).bind fun w v hw => follows_applyWords op hw
  | binary op left right ihl ihr =>
    have hleft := ihl h.1
    have hright := ihr h.2
    cases op with
    | or =>
      refine hleft.bind fun a a' ha => (follows_toBool ha).bind fun b _ hb => ?_
      obtain rfl := hb.1
      cases b with
      | true => exact follows_pure ⟨rfl, fitsWords_bool _⟩
      | false => exact follows_truth hright
    | and =>
      refine hleft.bind fun a a' ha => (follows_toBool ha).bind fun b _ hb => ?_
      obtain rfl := hb.1
      cases b with
      | true => exact follows_truth hright
      | false => exact follows_pure ⟨rfl, fitsWords_bool _⟩
    | compare how =>
      exact hleft.bind fun a a' ha => hright.bind fun b b' hb => follows_compare how ha hb
    | mod => exact hleft.bind fun a a' ha => hright.bind fun b b' hb => follows_mod ha hb

/-! ### Conditions that are read -/

/-- Integer tokens lie below the limit. -/
def Token.Fits (token : Token) : Prop :=
  ∀ n, token = .int n → n < integerLimit

lemma fits_of_takeToken {c : Char} {s rest : List Char} {token : Token}
    (h : takeToken c s = .ok (token, rest)) : token.Fits := by
  rintro n rfl
  unfold takeToken at h
  split_ifs at h with hdigit hname hquote hopening hclosing
  · dsimp only at h
    split_ifs at h with hlimit
    cases h
    exact hlimit
  · cases h
  · split at h <;> cases h
  · cases h
  · cases h
  · split at h <;> cases h

lemma fits_of_lexFrom {fuel : Nat} {s : List Char} {tokens : List Token}
    (h : lexFrom fuel s = .ok tokens) : ∀ token ∈ tokens, token.Fits := by
  induction fuel generalizing s tokens with
  | zero =>
    cases h
    simp
  | succ fuel ih =>
    rw [lexFrom] at h
    split at h
    · cases h
      simp
    · obtain ⟨⟨token, rest⟩, htoken, h⟩ := bind_eq_ok_iff.1 h
      obtain ⟨more, hmore, hout⟩ := bind_eq_ok_iff.1 h
      cases hout
      exact List.forall_mem_cons.2 ⟨fits_of_takeToken htoken, ih hmore⟩

/-- Operands in a row fit if every one of them does. -/
lemma literalsFit_gather {sign : Operator} {op : BinaryOp} {left : Expr} {more : List Operand}
    (hleft : left.LiteralsFit)
    (h : ∀ operand ∈ more, (∀ token ∈ operand.tokens, token.Fits) → operand.tree.LiteralsFit)
    (htokens : ∀ token ∈ Operand.signed sign more, token.Fits) :
    (Operand.gather op left more).LiteralsFit := by
  induction more generalizing left with
  | nil => exact hleft
  | cons operand more ih =>
    obtain ⟨hoperand, hmore⟩ := List.forall_mem_cons.1 h
    rw [signed_cons, List.forall_mem_cons, List.forall_mem_append] at htokens
    exact ih ⟨hleft, hoperand htokens.2.1⟩ hmore htokens.2.2

lemma literalsFit_row {sign : Operator} {op : BinaryOp} {first : Operand} {more : List Operand}
    (h : ∀ operand ∈ first :: more,
      (∀ token ∈ operand.tokens, token.Fits) → operand.tree.LiteralsFit)
    (htokens : ∀ token ∈ first.tokens ++ Operand.signed sign more, token.Fits) :
    (Operand.gather op first.tree more).LiteralsFit := by
  rw [List.forall_mem_append] at htokens
  obtain ⟨hfirst, hmore⟩ := List.forall_mem_cons.1 h
  exact literalsFit_gather (hfirst htokens.1) hmore htokens.2

/-- Tokens that fit form a condition whose literals do. -/
lemma Derives.literalsFit {level : Level} {tokens : List Token} {e : Expr}
    (h : Derives level tokens e) (htokens : ∀ token ∈ tokens, token.Fits) : e.LiteralsFit := by
  induction h with
  | or _ ih => exact literalsFit_row ih htokens
  | and _ ih => exact literalsFit_row ih htokens
  | compare how _ _ ihl ihr =>
    rw [List.forall_mem_append, List.forall_mem_cons] at htokens
    exact ⟨ihl htokens.1, ihr htokens.2.2⟩
  | uncompared _ ih => exact ih htokens
  | mod _ ih => exact literalsFit_row ih htokens
  | not _ ih => exact ih (List.forall_mem_cons.1 htokens).2
  | neg _ ih => exact ih (List.forall_mem_cons.1 htokens).2
  | unsigned _ ih => exact ih htokens
  | int n => exact ⟨Int.natCast_nonneg n, Int.ofNat_lt.2 (htokens _ List.mem_cons_self n rfl)⟩
  | string text => trivial
  | true => trivial
  | false => trivial
  | var r => trivial
  | parentheses _ ih =>
    rw [List.forall_mem_append, List.forall_mem_cons] at htokens
    exact ih htokens.1.2

lemma literalsFit_of_parse {source : List Char} {e : Expr} (h : parse source = .ok e) :
    e.LiteralsFit := by
  unfold parse at h
  split at h
  · cases h
  · rename_i tokens htokens
    have hderives := parseTokens_eq_ok_iff.1 (mapError_eq_ok_iff.1 h)
    exact hderives.literalsFit (fits_of_lexFrom htokens)

/-- In words the value of a condition is found as with integers, or the same error is. -/
lemma outcome_evalWords {e : Expr} (h : e.LiteralsFit) (ctx : Context) :
    (e.evalWords ctx).outcome.map WordValue.value = (e.eval ctx).mapError .eval := by
  have hfollows := follows_evalWords h ctx
  cases heval : e.eval ctx with
  | ok v =>
    obtain ⟨w, hw, hholds⟩ := hfollows.ok v heval
    rw [hw]
    exact congrArg Except.ok hholds.value
  | error fault =>
    rw [hfollows.error fault heval]
    rfl

/-- Words are enough for every condition that is read. Whatever the context is, evaluating it in
words comes to what evaluating it with integers comes to, and on the way no integer is the least
word, no negative lies beyond the words, and no remainder is taken by zero or of the least word by
-1; the remainders are not negative and smaller than the size of what is divided by. -/
theorem evalWords_safe {source : List Char} {e : Expr} (h : parse source = .ok e) (ctx : Context) :
    (e.evalWords ctx).outcome.map WordValue.value = (e.eval ctx).mapError .eval ∧
      ∀ event ∈ (e.evalWords ctx).events, event.Safe :=
  ⟨outcome_evalWords (literalsFit_of_parse h) ctx,
    (follows_evalWords (literalsFit_of_parse h) ctx).safe⟩

/-- The greatest words on both sides of remainders, with signs in front of them. -/
theorem evalWords_safe_greatest :
    let source := "---9223372036854775807 % -9223372036854775807 == doc_id_counter % -1".toList
    let ctx : Context := ⟨9223372036854775807, "testdb", "user"⟩
    let greatest : Expr := .literal (.int 9223372036854775807)
    let e : Expr := .binary (.compare .eq)
      (.binary .mod (.unary .neg (.unary .neg (.unary .neg greatest))) (.unary .neg greatest))
      (.binary .mod (.var .counter) (.unary .neg (.literal (.int 1))))
    parse source = .ok e ∧
      (e.evalWords ctx).outcome.map WordValue.value = .ok (.bool true) ∧
      Event.remainder (-9223372036854775807) (-9223372036854775807) ∈ (e.evalWords ctx).events ∧
      ∀ event ∈ (e.evalWords ctx).events, event.Safe := by
  intro source ctx greatest e
  have hparse : parse source = .ok e := by decide +kernel
  have heval : e.eval ctx = .ok (.bool true) := by decide +kernel
  obtain ⟨houtcome, hsafe⟩ := evalWords_safe hparse ctx
  rw [heval] at houtcome
  exact ⟨hparse, houtcome, by decide +kernel, hsafe⟩

/-- The least word, which no condition contains, would have no negative. -/
example :
    ((Expr.unary .neg (.literal (.int (-9223372036854775808)))).evalWords ⟨0, "", ""⟩).outcome =
      .error .overflow := by
  decide +kernel

end CouchLoad.Condition
