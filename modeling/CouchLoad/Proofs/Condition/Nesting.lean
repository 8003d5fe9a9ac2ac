import CouchLoad.Proofs.Condition.Lexemes

/-!
# Parentheses in conditions

The parentheses of a condition balance each other. Those inside of its string literals are text, so
all the parentheses that are written in it balance each other as long as those of every literal do.
-/

namespace CouchLoad.Condition

open Text

/-- The number of open parentheses behind a character, if it closes none that is not open. -/
def nest (depth : Nat) (c : Char) : Option Nat :=
  if c = '(' then some (depth + 1)
  else if c = ')' then (if depth = 0 then none else some (depth - 1))
  else some depth

/-- The number of open parentheses behind a text, if it closes none that is not open. -/
def nesting (depth : Nat) (s : List Char) : Option Nat :=
  s.foldlM nest depth

/-- The parentheses of a text balance each other. -/
def Matched (s : List Char) : Prop :=
  nesting 0 s = some 0

instance (s : List Char) : Decidable (Matched s) :=
  inferInstanceAs (Decidable (nesting 0 s = some 0))

/-! ### Texts -/

@[simp] lemma nesting_nil (depth : Nat) : nesting depth [] = some depth := rfl

@[simp] lemma nesting_cons (depth : Nat) (c : Char) (s : List Char) :
    nesting depth (c :: s) = (nest depth c).bind fun depth => nesting depth s := rfl

lemma nesting_append (depth : Nat) (s t : List Char) :
    nesting depth (s ++ t) = (nesting depth s).bind fun depth => nesting depth t :=
  List.foldlM_append

/-- A character that is no parenthesis. -/
lemma nest_of_ne {c : Char} (hopening : c ≠ '(') (hclosing : c ≠ ')') (depth : Nat) :
    nest depth c = some depth := by
  rw [nest, if_neg hopening, if_neg hclosing]

lemma nesting_of_notMem {s : List Char} (hopening : '(' ∉ s) (hclosing : ')' ∉ s) (depth : Nat) :
    nesting depth s = some depth := by
  induction s with
  | nil => rfl
  | cons c s ih =>
    rw [List.mem_cons, not_or] at hopening hclosing
    rw [nesting_cons, nest_of_ne (Ne.symm hopening.1) (Ne.symm hclosing.1), Option.bind_some,
      ih hopening.2 hclosing.2]

/-- More open parentheses in front of a text stay open behind it. -/
lemma nesting_add {s : List Char} {depth depth' : Nat} (h : nesting depth s = some depth')
    (more : Nat) : nesting (depth + more) s = some (depth' + more) := by
  induction s generalizing depth with
  | nil =>
    cases h
    rfl
  | cons c s ih =>
    obtain ⟨next, hnext, hrest⟩ := Option.bind_eq_some_iff.1 h
    have hmore : nest (depth + more) c = some (next + more) := by
      unfold nest at hnext ⊢
      split_ifs at hnext ⊢ <;> simp at hnext ⊢ <;> omega
    rw [nesting_cons, hmore, Option.bind_some, ih hrest]

lemma Matched.nesting {s : List Char} (h : Matched s) (depth : Nat) :
    nesting depth s = some depth := by
  simpa using nesting_add h depth

lemma matched_of_notMem {s : List Char} (hopening : '(' ∉ s) (hclosing : ')' ∉ s) : Matched s :=
  nesting_of_notMem hopening hclosing 0

/-! ### Tokens -/

/-- The number of open parentheses behind a token, with those in the text of a string. -/
def Token.nest (depth : Nat) : Token → Option Nat
  | .opening => some (depth + 1)
  | .closing => if depth = 0 then none else some (depth - 1)
  | .string text => Condition.nesting depth text.toList
  | _ => some depth

lemma isNamePart_of_isNameStart {c : Char} (h : isNameStart c = true) : isNamePart c = true := by
  simp only [isNameStart, isNamePart, Char.isAlphanum, Bool.or_eq_true] at h ⊢
  exact h.imp_left .inl

/-- A text of one class of characters is free of parentheses if the class is. -/
lemma nesting_of_forall {p : Char → Bool} (hopening : p '(' = false) (hclosing : p ')' = false)
    {s : List Char} (h : ∀ c ∈ s, p c) (depth : Nat) : nesting depth s = some depth :=
  nesting_of_notMem (fun hin => by simpa [hopening] using h _ hin)
    (fun hin => by simpa [hclosing] using h _ hin) depth

/-- However a token is written, its parentheses are the same. -/
lemma Token.Written.nesting {token : Token} {s : List Char} (h : token.Written s) (depth : Nat) :
    nesting depth s = token.nest depth := by
  cases h with
  | int hdigits _ => exact nesting_of_forall (p := Char.isDigit) rfl rfl hdigits depth
  | name hstart hparts =>
    refine nesting_of_forall (p := isNamePart) rfl rfl ?_ depth
    exact List.forall_mem_cons.2 ⟨isNamePart_of_isNameStart hstart, hparts⟩
  | @string quote s hquote _ =>
    have hnest : ∀ depth, Condition.nest depth quote = some depth := fun depth => by
      rcases hquote with rfl | rfl <;> exact nest_of_ne (by decide) (by decide) depth
    rw [nesting_cons, hnest, Option.bind_some, nesting_append]
    simp [hnest, Token.nest]
  | operator op => cases op <;> rfl
  | opening => rfl
  | closing =>
    rw [nesting_cons, Condition.nest, if_neg (by decide), if_pos rfl, Token.nest]
    split_ifs <;> rfl

/-- The parentheses of a text are those of its tokens. -/
lemma nesting_of_layout {ls : List Lexeme} {tail : List Char} (h : Layout ls tail) (depth : Nat) :
    nesting depth (Lexeme.textOf ls ++ tail) =
      (ls.map Lexeme.token).foldlM Token.nest depth := by
  induction h generalizing depth with
  | nil hblanks => exact nesting_of_forall (p := isBlank) rfl rfl hblanks depth
  | cons hblanks hwritten _ _ ih =>
    have hfront := fun depth => nesting_of_forall (p := isBlank) rfl rfl hblanks depth
    rw [textOf_cons, List.append_assoc, List.append_assoc, nesting_append, hfront,
      Option.bind_some, nesting_append, hwritten.nesting, List.map_cons, List.foldlM_cons]
    exact congrArg _ (funext ih)

/-! ### Conditions -/

/-- The parentheses of some tokens balance each other, however many are open in front of them. -/
def Evens (tokens : List Token) : Prop :=
  ∀ depth, tokens.foldlM Token.nest depth = some depth

lemma evens_nil : Evens [] := fun _ => rfl

lemma Evens.append {front behind : List Token} (hfront : Evens front) (hbehind : Evens behind) :
    Evens (front ++ behind) := by
  intro depth
  rw [List.foldlM_append, hfront]
  exact hbehind depth

lemma Evens.cons {token : Token} {tokens : List Token}
    (htoken : ∀ depth, token.nest depth = some depth) (h : Evens tokens) :
    Evens (token :: tokens) := by
  intro depth
  rw [List.foldlM_cons, htoken]
  exact h depth

lemma evens_parentheses {tokens : List Token} (h : Evens tokens) :
    Evens (.opening :: tokens ++ [.closing]) := by
  intro depth
  have hinside : (tokens ++ [Token.closing]).foldlM Token.nest (depth + 1) = some depth := by
    rw [List.foldlM_append, h]
    rfl
  rw [List.cons_append, List.foldlM_cons]
  exact hinside

/-- The strings among some tokens balance their parentheses. -/
def StringsMatched (tokens : List Token) : Prop :=
  ∀ text, .string text ∈ tokens → Matched text.toList

lemma stringsMatched_cons {token : Token} {tokens : List Token}
    (h : StringsMatched (token :: tokens)) : StringsMatched tokens :=
  fun text hin => h text (List.mem_cons_of_mem _ hin)

lemma stringsMatched_append {front behind : List Token} (h : StringsMatched (front ++ behind)) :
    StringsMatched front ∧ StringsMatched behind :=
  ⟨fun text hin => h text (List.mem_append_left _ hin),
    fun text hin => h text (List.mem_append_right _ hin)⟩

/-- Operands in a row balance their parentheses if each of them does. -/
lemma evens_row {sign : Operator} {first : Operand} {more : List Operand}
    (h : ∀ operand ∈ first :: more, StringsMatched operand.tokens → Evens operand.tokens)
    (hstrings : StringsMatched (first.tokens ++ Operand.signed sign more)) :
    Evens (first.tokens ++ Operand.signed sign more) := by
  induction more generalizing first with
  | nil =>
    rw [signed_nil, List.append_nil] at hstrings ⊢
    exact h first List.mem_cons_self hstrings
  | cons second more ih =>
    obtain ⟨hfirst, hsecond⟩ := stringsMatched_append hstrings
    rw [signed_cons] at hsecond ⊢
    refine (h first List.mem_cons_self hfirst).append (.cons (fun _ => rfl) ?_)
    exact ih (fun operand hin => h operand (List.mem_cons_of_mem _ hin))
      (stringsMatched_cons hsecond)

/-- The parentheses of a part of a condition balance each other. -/
lemma Derives.evens {level : Level} {tokens : List Token} {e : Expr} (h : Derives level tokens e)
    (hstrings : StringsMatched tokens) : Evens tokens := by
  induction h with
  | or _ ih => exact evens_row ih hstrings
  | and _ ih => exact evens_row ih hstrings
  | compare how _ _ ihl ihr =>
    obtain ⟨hleft, hright⟩ := stringsMatched_append hstrings
    exact (ihl hleft).append (.cons (fun _ => rfl) (ihr (stringsMatched_cons hright)))
  | uncompared _ ih => exact ih hstrings
  | mod _ ih => exact evens_row ih hstrings
  | not _ ih => exact .cons (fun _ => rfl) (ih (stringsMatched_cons hstrings))
  | neg _ ih => exact .cons (fun _ => rfl) (ih (stringsMatched_cons hstrings))
  | unsigned _ ih => exact ih hstrings
  | int n => exact .cons (fun _ => rfl) evens_nil
  | string text => exact .cons (hstrings text List.mem_cons_self).nesting evens_nil
  | true => exact .cons (fun _ => rfl) evens_nil
  | false => exact .cons (fun _ => rfl) evens_nil
  | var r => exact .cons (fun _ => rfl) evens_nil
  | parentheses _ ih =>
    exact evens_parentheses (ih (stringsMatched_append (stringsMatched_cons hstrings)).1)

lemma mem_stringLiterals_iff {s : List Char} {text : String} :
    text ∈ stringLiterals s ↔ ∃ tokens, lex s = .ok tokens ∧ .string text ∈ tokens := by
  unfold stringLiterals
  cases lex s with
  | error e => simp
  | ok tokens =>
    simp only [List.mem_filterMap, Except.ok.injEq, exists_eq_left']
    constructor
    · rintro ⟨token, hin, htext⟩
      cases token <;> simp at htext
      exact htext ▸ hin
    · exact fun hin => ⟨_, hin, rfl⟩

/-- A condition balances its parentheses if each of its string literals does. -/
theorem matched_of_parse {s : List Char} {e : Expr} (h : parse s = .ok e)
    (hstrings : ∀ text ∈ stringLiterals s, Matched text.toList) : Matched s := by
  obtain ⟨ls, tail, rfl, hlayout, hderives⟩ := parse_eq_ok_iff.1 h
  have hlex : lex (Lexeme.textOf ls ++ tail) = .ok (ls.map Lexeme.token) :=
    lex_eq_ok_iff.2 ⟨ls, tail, rfl, hlayout, rfl⟩
  have heven : Evens (ls.map Lexeme.token) := hderives.evens fun text hin =>
    hstrings text (mem_stringLiterals_iff.2 ⟨_, hlex, hin⟩)
  rw [Matched, nesting_of_layout hlayout, heven]

end CouchLoad.Condition
