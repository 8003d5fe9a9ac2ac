import CouchLoad.Proofs.Condition.Replacing
import CouchLoad.Proofs.Template.Enclosing
import CouchLoad.Proofs.Template.Substitution

/-!
# References and variables of the same name

In a condition the counter can be written as a placeholder, which is resolved before the condition
is evaluated, or as a variable, which is looked up when it is. Both come to the same.
-/

namespace CouchLoad

namespace Condition

variable {ctx : Context}

/-! ### Rows of lexemes with the counter replaced -/

section Rows

variable {value : List Char} {chosen : Nat → Bool} {l : Lexeme} {more : List Lexeme}
  {tail : List Char}

lemma replaceCounter_cons_of_pos (h : chosen 0 ∧ l.token = .name Reference.counter.name) :
    Lexeme.textOf (Lexeme.replaceCounter value chosen (l :: more)) =
      l.blanks ++ (value ++
        Lexeme.textOf (Lexeme.replaceCounter value (fun place => chosen (place + 1)) more)) := by
  rw [Lexeme.replaceCounter, List.mapIdx_cons, if_pos h, textOf_cons]
  rfl

lemma replaceCounter_cons_of_neg (h : ¬ (chosen 0 ∧ l.token = .name Reference.counter.name)) :
    Lexeme.textOf (Lexeme.replaceCounter value chosen (l :: more)) =
      l.blanks ++ (l.written ++
        Lexeme.textOf (Lexeme.replaceCounter value (fun place => chosen (place + 1)) more)) := by
  rw [Lexeme.replaceCounter, List.mapIdx_cons, if_neg h, textOf_cons]
  rfl

/-- The name of the counter is written in one way only. -/
lemma written_counter {s : List Char} (h : (Token.name Reference.counter.name).Written s) :
    s = Reference.counter.name.toList := by
  generalize htoken : Token.name Reference.counter.name = token at h
  cases h with
  | name hstart hparts =>
    injection htoken with hname
    rw [hname, String.toList_ofList]
  | _ => cases htoken

variable (chosen) in
/-- A row of lexemes begins as before, unless it begins with the counter and that is replaced. -/
lemma head?_replaceCounter (h : Layout more tail) (hvalue : value ≠ []) :
    (Lexeme.textOf (Lexeme.replaceCounter value chosen more) ++ tail).head? =
        (Lexeme.textOf more ++ tail).head? ∨
      (more.map Lexeme.token).head? = some (.name Reference.counter.name) ∧
        (Lexeme.textOf more ++ tail).head? = some 'd' ∧
        (Lexeme.textOf (Lexeme.replaceCounter value chosen more) ++ tail).head? = value.head? := by
  cases h with
  | nil => exact .inl rfl
  | @cons l more _ hblanks hwritten _ _ =>
    obtain ⟨blanks, written, token⟩ := l
    dsimp only at hblanks hwritten
    obtain ⟨c, run, rfl, -⟩ := hwritten.exists_cons
    obtain ⟨d, digits, rfl⟩ := List.exists_cons_of_ne_nil hvalue
    by_cases hchosen : chosen 0 ∧ token = .name Reference.counter.name
    · rw [replaceCounter_cons_of_pos hchosen, textOf_cons]
      obtain ⟨-, rfl⟩ := hchosen
      cases blanks with
      | nil =>
        obtain ⟨rfl, -⟩ := List.cons.inj (written_counter hwritten)
        exact .inr ⟨rfl, rfl, rfl⟩
      | cons => exact .inl rfl
    · rw [replaceCounter_cons_of_neg hchosen, textOf_cons]
      cases blanks <;> exact .inl rfl

/-- A digit goes on with no token that can stand in front of a name. -/
lemma continues_digit {token : Token} {c : Char} (h : token.endsOperand = false)
    (hc : c.isDigit = true) : token.continues c = false := by
  cases token with
  | operator op =>
    have hne : c ≠ '=' := by
      rintro rfl
      cases hc
    simp [Token.continues, hne]
  | opening => rfl
  | _ => cases h

variable (chosen) in
/-- The counter's number can be written in the place of its name: all tokens stay the same. -/
lemma exists_layout (h : Layout more tail) (hspaced : Spaced (more.map Lexeme.token))
    (hlimit : ctx.counter < integerLimit) :
    ∃ more', Lexeme.textOf more' =
        Lexeme.textOf (Lexeme.replaceCounter (Text.decimal ctx.counter) chosen more) ∧
      Layout more' tail ∧
      List.Forall₂ (Token.Alike ctx) (more.map Lexeme.token) (more'.map Lexeme.token) := by
  induction h generalizing chosen with
  | nil hblanks => exact ⟨[], rfl, .nil hblanks, .nil⟩
  | @cons l more tail hblanks hwritten hend hmore ih =>
    rw [List.map_cons] at hspaced
    obtain ⟨more', htext, hlayout, halike⟩ :=
      ih (fun place => chosen (place + 1)) hspaced.tail
    have hhead := head?_replaceCounter (fun place => chosen (place + 1)) hmore
      (Text.decimal_ne_nil ctx.counter)
    rw [← htext] at hhead
    have hdigit : ∀ c ∈ (Text.decimal ctx.counter).head?, c.isDigit = true :=
      fun c hc => Text.isDigit_of_mem_decimal (List.mem_of_mem_head? hc)
    by_cases hchosen : chosen 0 ∧ l.token = .name Reference.counter.name
    · obtain ⟨c, digits, hdecimal⟩ := List.exists_cons_of_ne_nil (Text.decimal_ne_nil ctx.counter)
      have hint : (Token.int ctx.counter).Written (Text.decimal ctx.counter) := by
        have hdigits : ∀ d ∈ Text.decimal ctx.counter, d.isDigit :=
          fun d hd => Text.isDigit_of_mem_decimal hd
        have hvalue := Text.natOfDigits_decimal ctx.counter
        rw [hdecimal] at hdigits hvalue ⊢
        rw [← hvalue]
        exact .int hdigits (hvalue ▸ hlimit)
      refine ⟨⟨l.blanks, Text.decimal ctx.counter, .int ctx.counter⟩ :: more', ?_,
        .cons hblanks hint ?_ hlayout, ?_⟩
      · rw [replaceCounter_cons_of_pos hchosen, textOf_cons, htext]
      · intro c hc
        rw [hchosen.2] at hend
        rcases hhead with hsame | ⟨-, hd, -⟩
        · have hnot := hend c (hsame ▸ hc)
          have hpart : isNamePart c = false := hnot
          simp only [isNamePart, Char.isAlphanum, Bool.or_eq_false_iff] at hpart
          exact hpart.1.2
        · exact absurd (hend 'd' hd) (by decide)
      · rw [List.map_cons, List.map_cons, hchosen.2]
        exact .cons .counter halike
    · refine ⟨l :: more', ?_, .cons hblanks hwritten ?_ hlayout, .cons (.same _) halike⟩
      · rw [replaceCounter_cons_of_neg hchosen, textOf_cons, htext]
      · intro c hc
        rcases hhead with hsame | ⟨hfirst, -, hnew⟩
        · exact hend c (hsame ▸ hc)
        · have hmeets : l.token.Meets (.name Reference.counter.name) := hspaced.rel_head? hfirst
          refine continues_digit ?_ (hdigit c (hnew ▸ hc))
          rw [← Bool.not_eq_true]
          exact fun hends => hmeets ⟨hends, rfl⟩

lemma replaceCounter_textOf (h : Layout more tail) :
    replaceCounter value chosen (Lexeme.textOf more ++ tail) =
      Lexeme.textOf (Lexeme.replaceCounter value chosen more) ++ tail := by
  rw [replaceCounter, lexemes_eq_ok_iff.2 ⟨rfl, h⟩]

/-- With its counter replaced by the number, a condition holds just when it held before. -/
lemma holds_replaceCounter {source : List Char} {e : Expr} (hparse : parse source = .ok e)
    (hlimit : ctx.counter < integerLimit) :
    holds ctx (replaceCounter (Text.decimal ctx.counter) chosen source) = holds ctx source := by
  obtain ⟨ls, tail, rfl, hlayout, hderives⟩ := parse_eq_ok_iff.1 hparse
  obtain ⟨ls', htext, hlayout', halike⟩ :=
    exists_layout chosen hlayout hderives.spaced hlimit
  obtain ⟨e', hderives', heval⟩ := hderives.amounts hlimit halike
  have hparse' : parse (Lexeme.textOf ls' ++ tail) = .ok e' :=
    parse_eq_ok_iff.2 ⟨ls', tail, rfl, hlayout', hderives'⟩
  rw [replaceCounter_textOf hlayout, ← htext, holds, holds, hparse, hparse']
  show e'.holds ctx = e.holds ctx
  rw [Expr.holds, Expr.holds, heval]

end Rows

end Condition

namespace Template

open Condition Entropy

variable {ctx : Context}

/-! ### Conditions with references -/

/-- Inside of a condition a text is read over, whatever stands behind it, and comes to another
text. -/
def Passes (ctx : Context) (depth depth' : Nat) (s text : List Char) : Prop :=
  ∀ rest, ∃ put : List Segment → List Segment,
    read? (.condition depth) (s ++ rest) =
        (read? (.condition depth') rest).map (inFront put) ∧
      ∀ segments, draftAll ctx (put segments) = (text ++ ·) <$> draftAll ctx segments

namespace Passes

lemma append {depth depth' depth'' : Nat} {s s' text text' : List Char}
    (h : Passes ctx depth depth' s text) (h' : Passes ctx depth' depth'' s' text') :
    Passes ctx depth depth'' (s ++ s') (text ++ text') := by
  intro rest
  obtain ⟨put, hread, hput⟩ := h (s' ++ rest)
  obtain ⟨put', hread', hput'⟩ := h' rest
  refine ⟨fun segments => put (put' segments), ?_, fun segments => ?_⟩
  · rw [List.append_assoc, hread, hread', Option.map_map]
    rfl
  · rw [hput, hput']
    simp

/-- Text without hash signs is read as it stands, unless a backslash at its end could escape one
behind it. -/
lemma of_notMem {s : List Char} (hhash : '#' ∉ s) (hend : '\\' ∉ s.getLast?) {depth depth' : Nat}
    (h : nesting depth s = some depth') : Passes ctx depth depth' s s := by
  induction s generalizing depth with
  | nil =>
    cases h
    exact fun rest => ⟨id, (congrFun Option.map_id _).symm, by simp⟩
  | cons c s ih =>
    intro rest
    obtain ⟨next, hnext, hs⟩ := Option.bind_eq_some_iff.1 h
    rw [List.mem_cons, not_or] at hhash
    have hlast : '\\' ∉ s.getLast? := by
      cases s with
      | nil => simp
      | cons d s => rwa [List.getLast?_cons_cons] at hend
    have hplain : IsPlain c (s ++ rest) := by
      refine ⟨?_, fun hc => absurd hc.symm hhash.1⟩
      rintro rfl
      cases s with
      | nil => exact absurd rfl hend
      | cons d s =>
        intro hd
        cases hd
        exact hhash.2 List.mem_cons_self
    obtain ⟨put, hread, hput⟩ := ih hhash.2 hlast hs rest
    refine ⟨fun segments => consChar c (put segments), ?_, fun segments => ?_⟩
    · rw [List.cons_append, read?_plain _ hplain, step_of_nest hnext]
      dsimp only
      rw [hread, Option.map_map]
      rfl
    · rw [draftAll_consChar, hput]
      simp

/-- A reference is read as a placeholder and comes to its value. -/
lemma mark (r : Reference) (depth : Nat) : Passes ctx depth depth r.mark (ctx.text r) := by
  intro rest
  have hmark : r.mark ++ rest = '#' :: '{' :: (r.name.toList ++ '}' :: rest) := by
    simp [Reference.mark]
  refine ⟨(.reference r :: ·), ?_, fun segments => by simp⟩
  rw [hmark, read?_simple _ (take?_reference r rest)]

end Passes

/-- No token ends with a backslash. -/
lemma getLast?_of_written {token : Token} {s : List Char} (h : token.Written s) :
    '\\' ∉ s.getLast? := by
  intro hlast
  have hmem := List.mem_of_mem_getLast? hlast
  cases h with
  | int hdigits _ => exact absurd (hdigits _ hmem) (by decide)
  | name hstart hparts =>
    rcases List.mem_cons.1 hmem with rfl | hmem
    · exact absurd hstart (by decide)
    · exact absurd (hparts _ hmem) (by decide)
  | string hquote _ =>
    rw [← List.cons_append, List.getLast?_concat, Option.mem_def, Option.some.injEq] at hlast
    rcases hquote with rfl | rfl <;> cases hlast
  | operator op => cases op <;> simp [Operator.symbol] at hmem
  | opening => simp at hmem
  | closing => simp at hmem

lemma getLast?_of_blanks {s : List Char} (h : ∀ c ∈ s, Text.isBlank c) : '\\' ∉ s.getLast? :=
  fun hlast => absurd (h _ (List.mem_of_mem_getLast? hlast)) (by decide)

/-- A condition with placeholders in the place of its counter comes to the condition with numbers
there. -/
lemma passes_replaceCounter {ls : List Lexeme} {tail : List Char} (h : Layout ls tail)
    (hhash : '#' ∉ Lexeme.textOf ls ++ tail) {depth depth' : Nat}
    (hnesting : nesting depth (Lexeme.textOf ls ++ tail) = some depth') (chosen : Nat → Bool) :
    Passes ctx depth depth'
      (Lexeme.textOf (Lexeme.replaceCounter Reference.counter.mark chosen ls) ++ tail)
      (Lexeme.textOf (Lexeme.replaceCounter (Text.decimal ctx.counter) chosen ls) ++ tail) := by
  induction h generalizing depth chosen with
  | nil hblanks => exact .of_notMem hhash (getLast?_of_blanks hblanks) hnesting
  | @cons l more tail hblanks hwritten hend hmore ih =>
    rw [textOf_cons, List.append_assoc, List.append_assoc] at hhash hnesting
    simp only [List.mem_append, not_or] at hhash
    obtain ⟨hfront, hinside, hbehind⟩ := hhash
    rw [nesting_append] at hnesting
    obtain ⟨first, hfirst, hnesting⟩ := Option.bind_eq_some_iff.1 hnesting
    rw [nesting_append] at hnesting
    obtain ⟨second, hsecond, hnesting⟩ := Option.bind_eq_some_iff.1 hnesting
    have hrest := ih (by simpa using hbehind) hnesting fun place => chosen (place + 1)
    have hgap : Passes ctx depth first l.blanks l.blanks :=
      .of_notMem hfront (getLast?_of_blanks hblanks) hfirst
    by_cases hchosen : chosen 0 ∧ l.token = .name Reference.counter.name
    · -- the name has no parentheses, and so the placeholder leaves the depth as it is
      rw [replaceCounter_cons_of_pos hchosen, replaceCounter_cons_of_pos hchosen]
      rw [hwritten.nesting, hchosen.2] at hsecond
      cases hsecond
      simp only [List.append_assoc]
      exact hgap.append ((Passes.mark .counter first).append hrest)
    · rw [replaceCounter_cons_of_neg hchosen, replaceCounter_cons_of_neg hchosen]
      simp only [List.append_assoc]
      exact hgap.append ((Passes.of_notMem hinside (getLast?_of_written hwritten) hsecond).append
        hrest)

/-- What is passed over as a whole is read as a condition, and resolved to one without a draw. -/
lemma Passes.condition {s text : List Char} (h : Passes ctx 0 0 s text) :
    ∃ inside, tokenize (conditionMark s) = .ok [.condition inside] ∧
      ∀ u, resolveAll ctx [.condition inside] u = (.ok (conditionMark text), u) := by
  obtain ⟨put, hread, hput⟩ := h conditionEnd
  have hinside : read? (.condition 0) (s ++ conditionEnd) = some (put [], []) := by
    rw [hread, conditionEnd, read?_closing.2 ⟨rfl, rfl⟩]
    rfl
  have hmark : conditionMark s = '#' :: '{' :: 'i' :: 'f' :: '(' :: (s ++ conditionEnd) := by
    simp [conditionMark, conditionEnd]
  refine ⟨put [], ?_, fun u => draftAll_eq_some_iff.1 ?_⟩
  · rw [tokenize_eq_ok_iff, hmark, read?_condition _ (take?_condition _), hinside,
      Option.bind_some, read?_nil, if_pos rfl]
    rfl
  · have hdraft : draftAll ctx [.condition (put [])] = pure (conditionMark text) := by
      simp [hput]
    rw [hdraft]
    rfl

/-- A mark is split where its condition ends. -/
lemma splitConditional?_conditionMark (source : List Char) :
    splitConditional? (conditionMark source) = some (source, []) := by
  have hsplit := splitConditional?_mark (List.forall_mem_nil _) (source ++ conditionEnd)
  have hbehind : ¬ conditionEnd <:+: [] := by simp [conditionEnd]
  have hlast := splitAtLast?_conditionEnd source hbehind
  rw [List.append_nil] at hlast
  rw [← hlast, ← hsplit]
  simp [conditionMark, conditionEnd]

/-- A condition may have its counter as a placeholder in some places and as a variable in others: it
is read as a condition, comes to the condition with numbers in those places, and holds just when it
holds with variables alone. -/
theorem holds_expanded {source : List Char} {e : Expr} (hparse : Condition.parse source = .ok e)
    (hhash : '#' ∉ source)
    (hstrings : ∀ text ∈ stringLiterals source, '(' ∉ text.toList ∧ ')' ∉ text.toList)
    (hcounter : ctx.counter ≤ 2 ^ 63 - 1) (chosen : Nat → Bool) :
    ∃ inside resolved,
      tokenize (conditionMark (replaceCounter Reference.counter.mark chosen source)) =
          .ok [.condition inside] ∧
        (∀ s, resolveAll ctx [.condition inside] s = (.ok (conditionMark resolved), s)) ∧
        splitConditional? (conditionMark resolved) = some (resolved, []) ∧
        holds ctx resolved = holds ctx source := by
  have hlimit : ctx.counter < integerLimit := by
    unfold integerLimit
    omega
  have hmatched : Matched source := matched_of_parse hparse fun text hin =>
    matched_of_notMem (hstrings text hin).1 (hstrings text hin).2
  have hpasses : Passes ctx 0 0 (replaceCounter Reference.counter.mark chosen source)
      (replaceCounter (Text.decimal ctx.counter) chosen source) := by
    obtain ⟨ls, tail, rfl, hlayout, -⟩ := parse_eq_ok_iff.1 hparse
    rw [replaceCounter_textOf hlayout, replaceCounter_textOf hlayout]
    exact passes_replaceCounter hlayout hhash hmatched chosen
  obtain ⟨inside, htokenize, hresolve⟩ := hpasses.condition
  exact ⟨inside, _, htokenize, hresolve, splitConditional?_conditionMark _,
    holds_replaceCounter hparse hlimit⟩

/-- An instance, in which one of two occurrences is a placeholder, next to a sign. -/
theorem holds_expanded_once :
    let ctx : Context := ⟨7, "x y", "user"⟩
    let source := "!(-doc_id_counter<0)||db_prefix=='x y'&&doc_id_counter%2==1".toList
    let marked := "!(-#\x7bdoc_id_counter\x7d<0)||db_prefix=='x y'&&doc_id_counter%2==1".toList
    let chosen := fun place => place == 3
    (∃ e, Condition.parse source = .ok e) ∧ '#' ∉ source ∧
      (∀ text ∈ stringLiterals source, '(' ∉ text.toList ∧ ')' ∉ text.toList) ∧
      ctx.counter ≤ 2 ^ 63 - 1 ∧ holds ctx source = .ok true ∧
      replaceCounter Reference.counter.mark chosen source = marked ∧
      ∃ inside resolved, tokenize (conditionMark marked) = .ok [.condition inside] ∧
        (∀ s, resolveAll ctx [.condition inside] s = (.ok (conditionMark resolved), s)) ∧
        splitConditional? (conditionMark resolved) = some (resolved, []) ∧
        holds ctx resolved = .ok true := by
  intro ctx source marked chosen
  have hparse : Condition.parse source = .ok (.binary .or
      (.unary .not (.binary (.compare .lt) (.unary .neg (.var .counter)) (.literal (.int 0))))
      (.binary .and (.binary (.compare .eq) (.var .dbPrefix) (.literal (.string "x y")))
        (.binary (.compare .eq) (.binary .mod (.var .counter) (.literal (.int 2)))
          (.literal (.int 1))))) := by decide +kernel
  have hhash : '#' ∉ source := by decide
  have hliterals : stringLiterals source = ["x y"] := by decide +kernel
  have hstrings : ∀ text ∈ stringLiterals source, '(' ∉ text.toList ∧ ')' ∉ text.toList := by
    rw [hliterals]
    decide
  have hcounter : ctx.counter ≤ 2 ^ 63 - 1 := by decide
  have hholds : holds ctx source = .ok true := by decide +kernel
  have hmarked : replaceCounter Reference.counter.mark chosen source = marked := by decide +kernel
  have hexpanded := holds_expanded hparse hhash hstrings hcounter chosen
  rw [hmarked, hholds] at hexpanded
  exact ⟨⟨_, hparse⟩, hhash, hstrings, hcounter, hholds, hmarked, hexpanded⟩

end Template

end CouchLoad
