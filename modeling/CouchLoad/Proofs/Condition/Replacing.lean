import CouchLoad.Proofs.Condition.Parsing
import Mathlib.Data.List.Forall2
import Mathlib.Data.List.Chain

/-!
# Numbers in the place of the counter

In a condition no operand stands right behind another one. An operand can be replaced by another
one of the same value without a change in the tree around it, and so in the value of the condition.
-/

namespace CouchLoad.Condition

/-! ### Neighbours -/

/-- Whether a token can stand at the end of an operand. -/
def Token.endsOperand : Token → Bool
  | .int _ | .string _ | .name _ | .closing => true
  | _ => false

/-- Whether a token can stand at the beginning of an operand, signs apart. -/
def Token.startsOperand : Token → Bool
  | .int _ | .string _ | .name _ | .opening => true
  | _ => false

/-- Two tokens that can be neighbours in a condition. -/
def Token.Meets (a b : Token) : Prop :=
  ¬ (a.endsOperand = true ∧ b.startsOperand = true)

lemma meets_of_endsOperand {a : Token} (h : a.endsOperand = false) (b : Token) : a.Meets b :=
  fun hab => by simp [h] at hab

lemma meets_of_startsOperand {b : Token} (h : b.startsOperand = false) (a : Token) : a.Meets b :=
  fun hab => by simp [h] at hab

/-- No two operands of some tokens are neighbours. -/
abbrev Spaced (tokens : List Token) : Prop :=
  tokens.IsChain Token.Meets

/-- Two parts of a condition have an operator between them. -/
lemma Spaced.join {front behind : List Token} (op : Operator) (hfront : Spaced front)
    (hbehind : Spaced behind) : Spaced (front ++ .operator op :: behind) := by
  refine hfront.append (hbehind.cons fun b _ => meets_of_endsOperand rfl b) ?_
  intro a _ b hb
  cases hb
  exact meets_of_startsOperand rfl a

lemma spaced_row {sign : Operator} {first : Operand} {more : List Operand}
    (h : ∀ operand ∈ first :: more, Spaced operand.tokens) :
    Spaced (first.tokens ++ Operand.signed sign more) := by
  induction more generalizing first with
  | nil =>
    rw [signed_nil, List.append_nil]
    exact h first List.mem_cons_self
  | cons second more ih =>
    rw [signed_cons]
    refine Spaced.join sign (h first List.mem_cons_self) ?_
    exact ih fun operand hin => h operand (List.mem_cons_of_mem _ hin)

/-- No two operands of a condition are neighbours. -/
lemma Derives.spaced {level : Level} {tokens : List Token} {e : Expr} (h : Derives level tokens e) :
    Spaced tokens := by
  induction h with
  | or _ ih => exact spaced_row ih
  | and _ ih => exact spaced_row ih
  | compare how _ _ ihl ihr => exact Spaced.join how.sign ihl ihr
  | uncompared _ ih => exact ih
  | mod _ ih => exact spaced_row ih
  | not _ ih => exact ih.cons fun b _ => meets_of_endsOperand rfl b
  | neg _ ih => exact ih.cons fun b _ => meets_of_endsOperand rfl b
  | unsigned _ ih => exact ih
  | int n => exact .singleton _
  | string text => exact .singleton _
  | true => exact .singleton _
  | false => exact .singleton _
  | var r => exact .singleton _
  | parentheses _ ih =>
    refine List.IsChain.append (ih.cons fun b _ => meets_of_endsOperand rfl b) (.singleton _) ?_
    intro a _ b hb
    cases hb
    exact meets_of_startsOperand rfl a

/-! ### Values -/

/-- Tokens of the same value: a token and itself, the name of the counter and its number. -/
inductive Token.Alike (ctx : Context) : Token → Token → Prop where
  | same (token : Token) : Token.Alike ctx token token
  | counter : Token.Alike ctx (.name Reference.counter.name) (.int ctx.counter)

variable {ctx : Context}

/-- Operands of the same values have the same value in a row. -/
lemma eval_gather {op : BinaryOp} {left left' : Expr} {more more' : List Operand}
    (hleft : left'.eval ctx = left.eval ctx)
    (hmore : List.Forall₂ (fun a b : Operand => b.tree.eval ctx = a.tree.eval ctx) more more') :
    (Operand.gather op left' more').eval ctx = (Operand.gather op left more).eval ctx := by
  induction hmore generalizing left left' with
  | nil => exact hleft
  | cons hfirst _ ih =>
    rw [gather_cons, gather_cons]
    apply ih
    cases op <;> simp only [Expr.eval, hleft, hfirst]

/-- Some tokens form a part of a condition, with the same value as a tree. -/
def Amounts (ctx : Context) (level : Level) (tokens : List Token) (e : Expr) : Prop :=
  ∃ e', Derives level tokens e' ∧ e'.eval ctx = e.eval ctx

lemma exists_append_of_forall₂ {α β : Type} {R : α → β → Prop} {front behind : List α}
    {l : List β} (h : List.Forall₂ R (front ++ behind) l) :
    ∃ front' behind', l = front' ++ behind' ∧ List.Forall₂ R front front' ∧
      List.Forall₂ R behind behind' :=
  ⟨_, _, (List.take_append_drop front.length l).symm,
    (List.forall₂_take_append l front behind h.flip).flip,
    (List.forall₂_drop_append l front behind h.flip).flip⟩

/-- Operands in a row are replaced one after the other. -/
lemma exists_row {level : Level} {sign : Operator} {first : Operand} {more : List Operand}
    {tokens : List Token}
    (ih : ∀ operand ∈ first :: more, ∀ tokens,
      List.Forall₂ (Token.Alike ctx) operand.tokens tokens →
        Amounts ctx level tokens operand.tree)
    (h : List.Forall₂ (Token.Alike ctx) (first.tokens ++ Operand.signed sign more) tokens) :
    ∃ first' more', tokens = first'.tokens ++ Operand.signed sign more' ∧
      (∀ operand ∈ first' :: more', Derives level operand.tokens operand.tree) ∧
      List.Forall₂ (fun a b : Operand => b.tree.eval ctx = a.tree.eval ctx) (first :: more)
        (first' :: more') := by
  induction more generalizing first tokens with
  | nil =>
    rw [signed_nil, List.append_nil] at h
    obtain ⟨e, hderives, heval⟩ := ih first List.mem_cons_self tokens h
    exact ⟨⟨tokens, e⟩, [], by simp, by simpa using hderives, .cons heval .nil⟩
  | cons second more ihmore =>
    obtain ⟨front, behind, rfl, hfront, hbehind⟩ := exists_append_of_forall₂ h
    obtain ⟨e, hderives, heval⟩ := ih first List.mem_cons_self front hfront
    rw [signed_cons] at hbehind
    cases hbehind with
    | cons hsign hbehind =>
      cases hsign
      obtain ⟨second', more', rfl, hderives', heval'⟩ :=
        ihmore (fun operand hin => ih operand (List.mem_cons_of_mem _ hin)) hbehind
      refine ⟨⟨front, e⟩, second' :: more', by simp, ?_, .cons heval heval'⟩
      exact List.forall_mem_cons.2 ⟨hderives, hderives'⟩

/-- A row of operands has the same value if each operand has. -/
lemma amounts_row {level operands : Level} {sign : Operator} {op : BinaryOp} {first : Operand}
    {more : List Operand} {tokens : List Token}
    (hmake : ∀ {first : Operand} {more : List Operand},
      (∀ operand ∈ first :: more, Derives operands operand.tokens operand.tree) →
        Derives level (first.tokens ++ Operand.signed sign more)
          (Operand.gather op first.tree more))
    (ih : ∀ operand ∈ first :: more, ∀ tokens,
      List.Forall₂ (Token.Alike ctx) operand.tokens tokens →
        Amounts ctx operands tokens operand.tree)
    (h : List.Forall₂ (Token.Alike ctx) (first.tokens ++ Operand.signed sign more) tokens) :
    Amounts ctx level tokens (Operand.gather op first.tree more) := by
  obtain ⟨first', more', rfl, hderives, heval⟩ := exists_row ih h
  cases heval with
  | cons hfirst hmore => exact ⟨_, hmake hderives, eval_gather hfirst hmore⟩

lemma exists_token_of_forall₂ {token : Token} {tokens : List Token}
    (h : List.Forall₂ (Token.Alike ctx) [token] tokens) :
    ∃ token', tokens = [token'] ∧ token.Alike ctx token' := by
  obtain ⟨token', _, hone, hnone, rfl⟩ := List.forall₂_cons_left_iff.1 h
  cases hnone
  exact ⟨token', rfl, hone⟩

/-- Only the name of the counter has another token of its value. -/
lemma Token.Alike.eq_of_ne {a b : Token} (h : a.Alike ctx b)
    (hne : a ≠ .name Reference.counter.name) : b = a := by
  cases h with
  | same => rfl
  | counter => exact absurd rfl hne

/-- A token that is no name of the counter stands for itself. -/
lemma amounts_token {token : Token} {e : Expr} (h : Derives .primary [token] e)
    (hne : token ≠ .name Reference.counter.name) {tokens : List Token}
    (hsame : List.Forall₂ (Token.Alike ctx) [token] tokens) :
    Amounts ctx .primary tokens e := by
  obtain ⟨token', rfl, htoken⟩ := exists_token_of_forall₂ hsame
  rw [htoken.eq_of_ne hne]
  exact ⟨e, h, rfl⟩

/-- The number that the counter has stands for its name. -/
lemma amounts_var (hcounter : ctx.counter < integerLimit) (r : Reference) {tokens : List Token}
    (hsame : List.Forall₂ (Token.Alike ctx) [.name r.name] tokens) :
    Amounts ctx .primary tokens (.var r) := by
  cases r with
  | counter =>
    obtain ⟨token', rfl, htoken⟩ := exists_token_of_forall₂ hsame
    cases htoken with
    | same => exact ⟨_, .var .counter, rfl⟩
    | counter => exact ⟨_, .int ctx.counter, by simp [Expr.eval, lookup, hcounter]⟩
  | dbPrefix => exact amounts_token (.var .dbPrefix) (by decide) hsame
  | userPrefix => exact amounts_token (.var .userPrefix) (by decide) hsame

/-- Tokens of the same values form a condition of the same value. -/
lemma Derives.amounts (hcounter : ctx.counter < integerLimit) {level : Level}
    {tokens : List Token} {e : Expr} (h : Derives level tokens e) {tokens' : List Token}
    (hsame : List.Forall₂ (Token.Alike ctx) tokens tokens') : Amounts ctx level tokens' e := by
  induction h generalizing tokens' with
  | or _ ih => exact amounts_row .or (fun operand hin _ => ih operand hin) hsame
  | and _ ih => exact amounts_row .and (fun operand hin _ => ih operand hin) hsame
  | mod _ ih => exact amounts_row .mod (fun operand hin _ => ih operand hin) hsame
  | compare how _ _ ihl ihr =>
    obtain ⟨front, behind, rfl, hfront, hbehind⟩ := exists_append_of_forall₂ hsame
    cases hbehind with
    | cons hsign hbehind =>
      cases hsign
      obtain ⟨left, hleft, heval⟩ := ihl hfront
      obtain ⟨right, hright, heval'⟩ := ihr hbehind
      refine ⟨_, @Derives.compare ⟨front, left⟩ ⟨_, right⟩ how hleft hright, ?_⟩
      simp only [Expr.eval, heval, heval']
  | uncompared _ ih =>
    obtain ⟨e', hderives, heval⟩ := ih hsame
    exact ⟨e', .uncompared hderives, heval⟩
  | not _ ih =>
    cases hsame with
    | cons hsign hbehind =>
      cases hsign
      obtain ⟨e', hderives, heval⟩ := ih hbehind
      exact ⟨_, .not hderives, by simp only [Expr.eval, heval]⟩
  | neg _ ih =>
    cases hsame with
    | cons hsign hbehind =>
      cases hsign
      obtain ⟨e', hderives, heval⟩ := ih hbehind
      exact ⟨_, .neg hderives, by simp only [Expr.eval, heval]⟩
  | unsigned _ ih =>
    obtain ⟨e', hderives, heval⟩ := ih hsame
    exact ⟨e', .unsigned hderives, heval⟩
  | int n => exact amounts_token (.int n) (by simp) hsame
  | string text => exact amounts_token (.string text) (by simp) hsame
  | true => exact amounts_token .true (by decide) hsame
  | false => exact amounts_token .false (by decide) hsame
  | var r => exact amounts_var hcounter r hsame
  | parentheses _ ih =>
    rw [List.cons_append] at hsame
    cases hsame with
    | cons hopening hsame =>
      obtain ⟨inside, behind, rfl, hinside, hbehind⟩ := exists_append_of_forall₂ hsame
      obtain ⟨token, rfl, hclosing⟩ := exists_token_of_forall₂ hbehind
      obtain rfl := hopening.eq_of_ne (by simp)
      obtain rfl := hclosing.eq_of_ne (by simp)
      obtain ⟨e', hderives, heval⟩ := ih hinside
      exact ⟨e', .parentheses hderives, heval⟩

end CouchLoad.Condition
