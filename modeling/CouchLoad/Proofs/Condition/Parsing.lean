import CouchLoad.Condition.Eval
import CouchLoad.Condition.Grammar
import CouchLoad.Proofs.Outcome

/-!
# Reading conditions and their grammar

The reader accepts just those tokens that the grammar derives from a whole condition, and it makes
the tree of the derivation. So there is only one such tree.
-/

namespace CouchLoad.Condition

@[simp] lemma signed_nil (sign : Operator) : Operand.signed sign [] = [] := rfl

@[simp] lemma signed_cons (sign : Operator) (operand : Operand) (more : List Operand) :
    Operand.signed sign (operand :: more) =
      .operator sign :: (operand.tokens ++ Operand.signed sign more) := rfl

@[simp] lemma gather_nil (op : BinaryOp) (left : Expr) : Operand.gather op left [] = left := rfl

@[simp] lemma gather_cons (op : BinaryOp) (left : Expr) (operand : Operand) (more : List Operand) :
    Operand.gather op left (operand :: more) =
      Operand.gather op (.binary op left operand.tree) more := rfl

lemma ofOperator?_eq_some_iff {op : Operator} {how : Comparison} :
    Comparison.ofOperator? op = some how ↔ op = how.sign := by
  cases op <;> cases how <;> simp [Comparison.ofOperator?, Comparison.sign]

@[simp] lemma ofOperator?_sign (how : Comparison) :
    Comparison.ofOperator? how.sign = some how := ofOperator?_eq_some_iff.2 rfl

/-! ### What is read is derived -/

/-- What a rule reads in front of the tokens that it leaves is some part of a condition. -/
def Rule.Sound (rule : Rule) (level : Level) : Prop :=
  ∀ {tokens rest : List Token} {e : Expr}, rule tokens = .ok (e, rest) →
    ∃ read, tokens = read ++ rest ∧ Derives level read e

lemma derives_of_ofName? {name : String} {e : Expr} (h : Expr.ofName? name = some e) :
    Derives .primary [.name name] e := by
  unfold Expr.ofName? at h
  split_ifs at h with htrue hfalse
  · cases h
    rw [htrue]
    exact .true
  · cases h
    rw [hfalse]
    exact .false
  · obtain ⟨r, hr, rfl⟩ := Option.map_eq_some_iff.1 h
    have hname : r.name.toList = name.toList := by simpa using List.find?_some hr
    rw [← String.toList_inj.1 hname]
    exact .var r

lemma sound_primary {inner : Rule} (hinner : inner.Sound .or) :
    (primary inner).Sound .primary := by
  intro tokens rest e h
  cases tokens with
  | nil => cases h
  | cons token tokens =>
    cases token with
    | int n =>
      cases h
      exact ⟨_, rfl, .int n⟩
    | string text =>
      cases h
      exact ⟨_, rfl, .string text⟩
    | name name =>
      rw [primary] at h
      split at h
      · rename_i e' hname
        cases h
        exact ⟨[.name name], rfl, derives_of_ofName? hname⟩
      · cases h
    | opening =>
      rw [primary] at h
      obtain ⟨⟨e', behind⟩, hread, hclosing⟩ := bind_eq_ok_iff.1 h
      obtain ⟨read, rfl, hderives⟩ := hinner hread
      split at hclosing
      · rename_i heq
        cases heq
        cases hclosing
        exact ⟨.opening :: read ++ [.closing], by simp, .parentheses hderives⟩
      · cases hclosing
    | closing => cases h
    | operator op => cases h

lemma sound_unary {inner : Rule} (hinner : inner.Sound .or) : (unary inner).Sound .unary := by
  intro tokens
  induction tokens with
  | nil =>
    intro rest e h
    cases h
  | cons token tokens ih =>
    intro rest e h
    unfold unary at h
    split at h
    · rename_i heq
      cases heq
      obtain ⟨⟨e', behind⟩, hread, hout⟩ := map_eq_ok_iff.1 h
      cases hout
      obtain ⟨read, rfl, hderives⟩ := ih hread
      exact ⟨_, rfl, .not hderives⟩
    · rename_i heq
      cases heq
      obtain ⟨⟨e', behind⟩, hread, hout⟩ := map_eq_ok_iff.1 h
      cases hout
      obtain ⟨read, rfl, hderives⟩ := ih hread
      exact ⟨_, rfl, .neg hderives⟩
    · obtain ⟨read, hread, hderives⟩ := sound_primary hinner h
      exact ⟨read, hread, .unsigned hderives⟩

/-- The operands behind the first one are read one after the other. -/
lemma sound_chainFrom {sign : Operator} {op : BinaryOp} {operand : Rule} {level : Level}
    (hoperand : operand.Sound level) {fuel : Nat} {left e : Expr} {tokens rest : List Token}
    (h : chainFrom sign op operand fuel left tokens = .ok (e, rest)) :
    ∃ more, tokens = Operand.signed sign more ++ rest ∧ e = Operand.gather op left more ∧
      ∀ operand ∈ more, Derives level operand.tokens operand.tree := by
  induction fuel generalizing left tokens with
  | zero =>
    cases h
    exact ⟨[], rfl, rfl, by simp⟩
  | succ fuel ih =>
    unfold chainFrom at h
    split at h
    · rename_i fuel' left' found tokens heq
      cases heq
      split_ifs at h with hsign
      · obtain ⟨⟨right, behind⟩, hread, hmore⟩ := bind_eq_ok_iff.1 h
        obtain ⟨read, rfl, hright⟩ := hoperand hread
        obtain ⟨more, rfl, rfl, hderives⟩ := ih hmore
        refine ⟨⟨read, right⟩ :: more, by simp [hsign], by simp, ?_⟩
        simpa using ⟨hright, hderives⟩
      · cases h
        exact ⟨[], rfl, rfl, by simp⟩
    · cases h
      exact ⟨[], rfl, rfl, by simp⟩

/-- What a chain reads is a row of operands. -/
lemma sound_chain {sign : Operator} {op : BinaryOp} {operand : Rule} {level : Level}
    (hoperand : operand.Sound level) {tokens rest : List Token} {e : Expr}
    (h : chain sign op operand tokens = .ok (e, rest)) :
    ∃ first more, tokens = (first.tokens ++ Operand.signed sign more) ++ rest ∧
      e = Operand.gather op first.tree more ∧
      ∀ operand ∈ first :: more, Derives level operand.tokens operand.tree := by
  obtain ⟨⟨left, behind⟩, hread, hmore⟩ := bind_eq_ok_iff.1 h
  obtain ⟨read, rfl, hleft⟩ := hoperand hread
  obtain ⟨more, rfl, rfl, hderives⟩ := sound_chainFrom hoperand hmore
  refine ⟨⟨read, left⟩, more, by simp, rfl, ?_⟩
  simpa using ⟨hleft, hderives⟩

lemma sound_comparison {operand : Rule} (hoperand : operand.Sound .mod) :
    (comparison operand).Sound .comparison := by
  intro tokens rest e h
  obtain ⟨⟨left, behind⟩, hread, hmore⟩ := bind_eq_ok_iff.1 h
  obtain ⟨read, rfl, hleft⟩ := hoperand hread
  dsimp only at hmore
  split at hmore
  · split at hmore
    · rename_i how hhow
      obtain ⟨⟨right, behind'⟩, hread', hout⟩ := bind_eq_ok_iff.1 hmore
      obtain ⟨read', rfl, hright⟩ := hoperand hread'
      cases hout
      rw [ofOperator?_eq_some_iff.1 hhow]
      refine ⟨read ++ .operator how.sign :: read', by simp, ?_⟩
      exact @Derives.compare ⟨read, left⟩ ⟨read', right⟩ how hleft hright
    · cases hmore
      exact ⟨read, rfl, .uncompared hleft⟩
  · cases hmore
    exact ⟨read, rfl, .uncompared hleft⟩

/-- What is read as a condition is derived as one. -/
lemma sound_condition (depth : Nat) : (condition depth).Sound .or := by
  induction depth with
  | zero =>
    intro tokens rest e h
    cases h
  | succ depth ih =>
    intro tokens rest e h
    have hmod : Rule.Sound (chain .mod .mod (unary (condition depth))) .mod := by
      intro tokens rest e h
      obtain ⟨first, more, rfl, rfl, hderives⟩ := sound_chain (sound_unary ih) h
      exact ⟨_, rfl, .mod hderives⟩
    have hand : Rule.Sound
        (chain .and .and (comparison (chain .mod .mod (unary (condition depth))))) .and := by
      intro tokens rest e h
      obtain ⟨first, more, rfl, rfl, hderives⟩ := sound_chain (sound_comparison hmod) h
      exact ⟨_, rfl, .and hderives⟩
    obtain ⟨first, more, rfl, rfl, hderives⟩ := sound_chain hand h
    exact ⟨_, rfl, .or hderives⟩

/-! ### What is derived is read -/

/-- The operators that go on with a part of a condition. -/
def Level.operators : Level → List Operator
  | .or => [.or, .and, .eq, .ne, .lt, .le, .gt, .ge, .mod]
  | .and => [.and, .eq, .ne, .lt, .le, .gt, .ge, .mod]
  | .comparison => [.eq, .ne, .lt, .le, .gt, .ge, .mod]
  | .mod => [.mod]
  | .unary | .primary => []

/-- The tokens behind a part of a condition do not go on with it. -/
def Level.Ends (level : Level) (rest : List Token) : Prop :=
  ∀ op ∈ level.operators, rest.head? ≠ some (.operator op)

/-- A rule reads every part of a condition with fewer tokens than a bound, whatever ends it. -/
def Rule.Complete (rule : Rule) (level : Level) (bound : Nat) : Prop :=
  ∀ {tokens rest : List Token} {e : Expr}, Derives level tokens e → tokens.length < bound →
    level.Ends rest → rule (tokens ++ rest) = .ok (e, rest)

lemma Level.Ends.mono {level level' : Level} {rest : List Token} (h : level.Ends rest)
    (hsub : level'.operators ⊆ level.operators) : level'.Ends rest :=
  fun op hop => h op (hsub hop)

lemma Level.ends_nil (level : Level) : level.Ends [] := by simp [Level.Ends]

lemma Level.ends_closing (level : Level) (rest : List Token) : level.Ends (.closing :: rest) := by
  simp [Level.Ends]

lemma Level.ends_operator {level : Level} {op : Operator} (hop : op ∉ level.operators)
    (rest : List Token) : level.Ends (.operator op :: rest) := by
  intro op' hop' heq
  cases heq
  exact hop hop'

lemma Level.ends_signed {level : Level} {sign : Operator} {more : List Operand} {rest : List Token}
    (hsign : sign ∉ level.operators) (hrest : level.Ends rest) :
    level.Ends (Operand.signed sign more ++ rest) := by
  cases more with
  | nil => exact hrest
  | cons operand more => exact Level.ends_operator hsign _

lemma ofName?_name (r : Reference) : Expr.ofName? r.name = some (.var r) := by
  cases r <;> rfl

lemma complete_primary {inner : Rule} {bound : Nat} (hinner : inner.Complete .or bound) :
    (primary inner).Complete .primary (bound + 1) := by
  intro tokens rest e h hlength _
  cases h with
  | int n => rfl
  | string text => rfl
  | true => rfl
  | false => rfl
  | var r =>
    rw [List.singleton_append, primary, ofName?_name]
  | parentheses h =>
    rename_i tokens
    have hread : inner (tokens ++ .closing :: rest) = .ok (e, .closing :: rest) := by
      refine hinner h ?_ ?_
      · simp only [List.length_append, List.length_cons] at hlength
        omega
      · exact Level.ends_closing _ _
    rw [List.append_assoc, List.cons_append, primary]
    exact bind_eq_ok_iff.2 ⟨_, hread, rfl⟩

/-- A primary condition does not begin with an operator. -/
lemma unary_eq_primary {inner : Rule} {tokens rest : List Token} {e : Expr}
    (h : Derives .primary tokens e) :
    unary inner (tokens ++ rest) = primary inner (tokens ++ rest) := by
  cases h <;> rfl

lemma complete_unary {inner : Rule} {bound : Nat} (hinner : inner.Complete .or bound) :
    (unary inner).Complete .unary (bound + 1) := by
  intro tokens
  induction tokens with
  | nil =>
    intro rest e h
    cases h with
    | unsigned h => cases h
  | cons token tokens ih =>
    intro rest e h hlength hrest
    cases h with
    | not h =>
      have hread := ih h (Nat.lt_of_succ_lt hlength) hrest
      rw [List.cons_append, unary]
      exact map_eq_ok_iff.2 ⟨_, hread, rfl⟩
    | neg h =>
      have hread := ih h (Nat.lt_of_succ_lt hlength) hrest
      rw [List.cons_append, unary]
      exact map_eq_ok_iff.2 ⟨_, hread, rfl⟩
    | unsigned h =>
      rw [unary_eq_primary h]
      exact complete_primary hinner h hlength (hrest.mono (List.Subset.refl _))

section Chains

variable {sign : Operator} {op : BinaryOp} {operand : Rule} {operands : Level} {bound : Nat}

/-- A chain goes on as long as there are operands. -/
lemma complete_chainFrom (hoperand : operand.Complete operands bound)
    (hsign : sign ∉ operands.operators) {more : List Operand} {fuel : Nat} {left : Expr}
    {rest : List Token} (hmore : ∀ operand ∈ more, Derives operands operand.tokens operand.tree)
    (hlength : (Operand.signed sign more).length < bound)
    (hfuel : (Operand.signed sign more).length ≤ fuel) (hrest : operands.Ends rest)
    (hend : rest.head? ≠ some (.operator sign)) :
    chainFrom sign op operand fuel left (Operand.signed sign more ++ rest) =
      .ok (Operand.gather op left more, rest) := by
  induction more generalizing fuel left with
  | nil =>
    rw [signed_nil, List.nil_append, gather_nil]
    unfold chainFrom
    split
    · split_ifs with hfound
      · rw [hfound] at hend
        exact absurd rfl hend
      · rfl
    · rfl
  | cons first more ih =>
    simp only [signed_cons, List.length_cons, List.length_append] at hlength hfuel
    obtain ⟨fuel, rfl⟩ := Nat.exists_eq_succ_of_ne_zero (Nat.ne_of_gt (Nat.lt_of_lt_of_le
      (Nat.succ_pos _) hfuel))
    have hread : operand (first.tokens ++ (Operand.signed sign more ++ rest)) =
        .ok (first.tree, Operand.signed sign more ++ rest) :=
      hoperand (hmore first List.mem_cons_self) (by omega) (Level.ends_signed hsign hrest)
    rw [signed_cons, List.cons_append, List.append_assoc, chainFrom, if_pos rfl, gather_cons]
    refine bind_eq_ok_iff.2 ⟨_, hread, ?_⟩
    exact ih (fun operand hin => hmore operand (List.mem_cons_of_mem _ hin)) (by omega) (by omega)

lemma complete_chain (hoperand : operand.Complete operands bound)
    (hsign : sign ∉ operands.operators) {first : Operand} {more : List Operand}
    {rest : List Token}
    (hderives : ∀ operand ∈ first :: more, Derives operands operand.tokens operand.tree)
    (hlength : (first.tokens ++ Operand.signed sign more).length < bound)
    (hrest : operands.Ends rest) (hend : rest.head? ≠ some (.operator sign)) :
    chain sign op operand (first.tokens ++ Operand.signed sign more ++ rest) =
      .ok (Operand.gather op first.tree more, rest) := by
  rw [List.length_append] at hlength
  have hread : operand (first.tokens ++ (Operand.signed sign more ++ rest)) =
      .ok (first.tree, Operand.signed sign more ++ rest) :=
    hoperand (hderives first List.mem_cons_self) (by omega) (Level.ends_signed hsign hrest)
  rw [List.append_assoc]
  refine bind_eq_ok_iff.2 ⟨_, hread, ?_⟩
  refine complete_chainFrom hoperand hsign
    (fun operand hin => hderives operand (List.mem_cons_of_mem _ hin)) (by omega) ?_ hrest hend
  simp

end Chains

lemma sign_mem_operators (how : Comparison) : how.sign ∈ Level.comparison.operators := by
  cases how <;> simp [Comparison.sign, Level.operators]

lemma complete_comparison {operand : Rule} {bound : Nat} (hoperand : operand.Complete .mod bound) :
    (comparison operand).Complete .comparison bound := by
  intro tokens rest e h hlength hrest
  have hmod : Level.mod.Ends rest := hrest.mono (by decide)
  cases h with
  | compare how hleft hright =>
    rename_i left right
    simp only [List.length_append, List.length_cons] at hlength
    have hread : operand (left.tokens ++ (.operator how.sign :: (right.tokens ++ rest))) =
        .ok (left.tree, .operator how.sign :: (right.tokens ++ rest)) := by
      refine hoperand hleft (by omega) (Level.ends_operator ?_ _)
      cases how <;> decide
    have hread' : operand (right.tokens ++ rest) = .ok (right.tree, rest) :=
      hoperand hright (by omega) hmod
    rw [List.append_assoc, List.cons_append]
    refine bind_eq_ok_iff.2 ⟨_, hread, ?_⟩
    dsimp only
    rw [ofOperator?_sign]
    exact bind_eq_ok_iff.2 ⟨_, hread', rfl⟩
  | uncompared h =>
    refine bind_eq_ok_iff.2 ⟨_, hoperand h hlength hmod, ?_⟩
    dsimp only
    split
    · rename_i op more
      cases hhow : Comparison.ofOperator? op with
      | none => rfl
      | some how =>
        rw [ofOperator?_eq_some_iff.1 hhow] at hrest
        exact absurd rfl (hrest _ (sign_mem_operators how))
    · rfl

/-- What is derived as a condition is read as one, as soon as its tokens are fewer than the
parentheses that may be opened. -/
lemma complete_condition (depth : Nat) : (condition depth).Complete .or depth := by
  induction depth with
  | zero =>
    intro tokens rest e h hlength
    exact absurd hlength (Nat.not_lt_zero _)
  | succ depth ih =>
    -- parentheses take two tokens away, so what stands inside fits in one level less
    have hmod : Rule.Complete (chain .mod .mod (unary (condition depth))) .mod (depth + 1) := by
      intro tokens rest e h hlength hrest
      cases h with
      | mod h =>
        exact complete_chain (complete_unary ih) (by decide) h hlength (hrest.mono (by decide))
          (hrest _ (by decide))
    have hand : Rule.Complete
        (chain .and .and (comparison (chain .mod .mod (unary (condition depth))))) .and
        (depth + 1) := by
      intro tokens rest e h hlength hrest
      cases h with
      | and h =>
        exact complete_chain (complete_comparison hmod) (by decide) h hlength
          (hrest.mono (by decide)) (hrest _ (by decide))
    intro tokens rest e h hlength hrest
    cases h with
    | or h =>
      exact complete_chain hand (by decide) h hlength (hrest.mono (by decide)) (hrest _ (by decide))

/-! ### The reader and the grammar -/

/-- Every token counts: the reader goes through all of them, each of them once. -/
lemma parseTokens_eq_ok_iff {tokens : List Token} {e : Expr} :
    parseTokens tokens = .ok e ↔ Derives .or tokens e := by
  constructor
  · intro h
    obtain ⟨⟨e', behind⟩, hread, hall⟩ := bind_eq_ok_iff.1 h
    obtain ⟨read, rfl, hderives⟩ := sound_condition _ hread
    split at hall
    · rename_i heq
      cases heq
      cases hall
      rwa [List.append_nil]
    · cases hall
  · intro h
    have hread := complete_condition (tokens.length + 1) h (Nat.lt_succ_self _) (Level.ends_nil _)
    rw [List.append_nil] at hread
    exact bind_eq_ok_iff.2 ⟨_, hread, rfl⟩

/-- The grammar is unambiguous. -/
theorem Derives.unique {tokens : List Token} {e e' : Expr} (h : Derives .or tokens e)
    (h' : Derives .or tokens e') : e = e' :=
  Except.ok.inj ((parseTokens_eq_ok_iff.2 h).symm.trans (parseTokens_eq_ok_iff.2 h'))

/-- A text is a condition just when its tokens are one of the grammar, and then the tree is that of
the grammar. Any other text is refused, by its tokens or by their order. -/
theorem parse_grammar (source : List Char) :
    (∀ e, parse source = .ok e ↔ ∃ tokens, lex source = .ok tokens ∧ Derives .or tokens e) ∧
      ((∃ e, parse source = .ok e) ∨ (∃ fault, parse source = .error (.lex fault)) ∨
        ∃ fault, parse source = .error (.parse fault)) := by
  rw [parse]
  cases lex source with
  | error fault => simp
  | ok tokens =>
    have hiff : ∀ e, parseTokens tokens = .ok e ↔ Derives .or tokens e :=
      fun e => parseTokens_eq_ok_iff
    dsimp only
    cases hread : parseTokens tokens with
    | error fault =>
      rw [hread] at hiff
      simpa [Except.mapError] using hiff
    | ok e =>
      rw [hread] at hiff
      simpa [Except.mapError] using hiff

/-- The remainder binds tighter than the comparison, and the sign tighter than the remainder. -/
example :
    parse "!true && -1 % 2 == 0".toList = .ok (.binary .and (.unary .not (.literal (.bool true)))
      (.binary (.compare .eq)
        (.binary .mod (.unary .neg (.literal (.int 1))) (.literal (.int 2)))
        (.literal (.int 0)))) := by
  decide +kernel

end CouchLoad.Condition
