import CouchLoad.Condition.Lexeme
import CouchLoad.Proofs.Condition.Parsing
import CouchLoad.Proofs.Text.Cuts

/-!
# The lexemes of a condition

A token is read in front of a text just when it is written there and the text does not go on with
it. So the lexer finds the tokens of a row of lexemes, and no others.
-/

namespace CouchLoad

namespace Condition

open Text

/-! ### Operators -/

lemma symbol_of_ofPair? {c d : Char} {op : Operator} (h : Operator.ofPair? c d = some op) :
    op.symbol.toList = [c, d] := by
  unfold Operator.ofPair? at h
  split at h <;> cases h <;> rfl

lemma symbol_of_ofChar? {c : Char} {op : Operator} (h : Operator.ofChar? c = some op) :
    op.symbol.toList = [c] := by
  unfold Operator.ofChar? at h
  split at h <;> cases h <;> rfl

/-- An operator of two characters is as long as it can be. -/
lemma continues_of_ofPair? {c d : Char} {op : Operator} (h : Operator.ofPair? c d = some op)
    (c' : Char) : (Token.operator op).continues c' = false := by
  unfold Operator.ofPair? at h
  split at h <;> cases h <;> rfl

/-- An operator of one character goes on just where it is the beginning of another. -/
lemma continues_of_ofChar? {c : Char} {op : Operator} (h : Operator.ofChar? c = some op)
    (c' : Char) : (Token.operator op).continues c' = (Operator.ofPair? c c').isSome := by
  unfold Operator.ofChar? at h
  split at h <;> cases h <;> by_cases hc : c' = '=' <;>
    simp [Token.continues, Operator.ofPair?, hc]

/-- The characters with which nothing but an operator begins. -/
lemma takeToken_of_operator {c : Char} {op : Operator} (hc : op.symbol.toList.head? = some c)
    (s : List Char) : takeToken c s =
      match s.head?.bind (Operator.ofPair? c), Operator.ofChar? c with
      | some op, _ => .ok (.operator op, s.tail)
      | none, some op => .ok (.operator op, s)
      | none, none => .error (.unexpectedCharacter c) := by
  cases op <;> cases hc <;> rfl

/-! ### One token -/

/-- What is read as a token is a way to write it. -/
lemma written_of_takeToken {c : Char} {s rest : List Char} {token : Token}
    (h : takeToken c s = .ok (token, rest)) :
    ∃ more, s = more ++ rest ∧ token.Written (c :: more) ∧
      ∀ d ∈ rest.head?, token.continues d = false := by
  unfold takeToken at h
  split_ifs at h with hdigit hname hquote hopening hclosing
  · obtain ⟨run, rest', rfl, hrun, hrest⟩ := exists_span Char.isDigit s
    obtain ⟨htake, hdrop⟩ := span_append hrun hrest
    rw [htake, hdrop] at h
    dsimp only at h
    split_ifs at h with hlimit
    cases h
    refine ⟨run, rfl, .int ?_ hlimit, hrest⟩
    exact List.forall_mem_cons.2 ⟨hdigit, hrun⟩
  · obtain ⟨run, rest', rfl, hrun, hrest⟩ := exists_span isNamePart s
    obtain ⟨htake, hdrop⟩ := span_append hrun hrest
    rw [htake, hdrop] at h
    cases h
    exact ⟨run, rfl, .name hname hrun, hrest⟩
  · obtain ⟨run, rest', rfl, hrun, hrest⟩ := exists_span (fun d => decide (d ≠ c)) s
    obtain ⟨htake, hdrop⟩ := span_append hrun hrest
    rw [htake, hdrop] at h
    cases rest' with
    | nil => cases h
    | cons d rest' =>
      cases h
      obtain rfl : d = c := by simpa using hrest
      refine ⟨run ++ [d], by simp, .string ?_ ?_, by simp [Token.continues]⟩
      · simpa using hquote
      · intro hin
        simpa using hrun d hin
  · cases h
    subst hopening
    exact ⟨[], rfl, .opening, by simp [Token.continues]⟩
  · cases h
    subst hclosing
    exact ⟨[], rfl, .closing, by simp [Token.continues]⟩
  · split at h
    · rename_i op hpair
      cases h
      obtain ⟨d, hd, hpair⟩ := Option.bind_eq_some_iff.1 hpair
      obtain ⟨rest, rfl⟩ := List.head?_eq_some_iff.1 hd
      refine ⟨[d], rfl, ?_, fun d' _ => continues_of_ofPair? hpair d'⟩
      rw [← symbol_of_ofPair? hpair]
      exact .operator op
    · rename_i op hpair hchar
      cases h
      refine ⟨[], rfl, ?_, fun d hd => ?_⟩
      · rw [← symbol_of_ofChar? hchar]
        exact .operator op
      · rw [Option.mem_def.1 hd, Option.bind_some] at hpair
        rw [continues_of_ofChar? hchar, hpair]
        rfl
    · cases h

/-- The characters that begin a name. -/
lemma code_of_isNameStart {c : Char} (h : isNameStart c = true) :
    65 ≤ c.toNat ∧ c.toNat ≤ 90 ∨ 97 ≤ c.toNat ∧ c.toNat ≤ 122 ∨ c = '_' := by
  rcases Bool.or_eq_true_iff.1 h with halpha | hunderscore
  · rcases Bool.or_eq_true_iff.1 halpha with hupper | hlower
    · exact .inl (of_decide_eq_true hupper)
    · obtain ⟨hlow, hhigh⟩ := Bool.and_eq_true_iff.1 hlower
      exact .inr (.inl ⟨of_decide_eq_true hlow, of_decide_eq_true hhigh⟩)
  · exact .inr (.inr (of_decide_eq_true hunderscore))

lemma not_isDigit_of_isNameStart {c : Char} (h : isNameStart c = true) : c.isDigit = false := by
  rw [Bool.eq_false_iff]
  intro hdigit
  obtain ⟨-, hhigh⟩ := Bool.and_eq_true_iff.1 hdigit
  have hcode : c.toNat ≤ 57 := of_decide_eq_true hhigh
  rcases code_of_isNameStart h with hupper | hlower | rfl
  · omega
  · omega
  · exact absurd hcode (by decide)

/-- An operator is read where none of two characters begins with it. -/
lemma takeToken_operator {c : Char} {more rest : List Char} {op : Operator}
    (h : op.symbol.toList = c :: more)
    (hrest : ∀ d ∈ rest.head?, (Token.operator op).continues d = false) :
    takeToken c (more ++ rest) = .ok (.operator op, rest) := by
  rw [takeToken_of_operator (h ▸ rfl : op.symbol.toList.head? = some c)]
  cases more with
  | cons d more =>
    have hpair : Operator.ofPair? c d = some op ∧ more = [] := by
      cases op <;> cases h <;> exact ⟨rfl, rfl⟩
    obtain ⟨hpair, rfl⟩ := hpair
    simp [hpair]
  | nil =>
    have hchar : Operator.ofChar? c = some op := by
      cases op <;> cases h <;> rfl
    have hpair : rest.head?.bind (Operator.ofPair? c) = none := by
      rw [Option.bind_eq_none_iff]
      intro d hd
      have hnot := hrest d hd
      rwa [continues_of_ofChar? hchar, Option.isSome_eq_false_iff, Option.isNone_iff_eq_none]
        at hnot
    rw [List.nil_append, hpair, hchar]

/-- A string is read up to the next quote of its kind. -/
lemma takeToken_of_quote {quote : Char} (h : quote = '"' ∨ quote = '\'') (s : List Char) :
    takeToken quote s = match s.dropWhile (· ≠ quote) with
      | [] => .error .unterminatedString
      | _ :: rest => .ok (.string (String.ofList (s.takeWhile (· ≠ quote))), rest) := by
  rcases h with rfl | rfl <;> rfl

/-- A token that is written in front of a text is read there, unless the text goes on with it. -/
lemma takeToken_of_written {c : Char} {more rest : List Char} {token : Token}
    (h : token.Written (c :: more)) (hrest : ∀ d ∈ rest.head?, token.continues d = false) :
    takeToken c (more ++ rest) = .ok (token, rest) := by
  generalize hs : c :: more = s at h
  cases h with
  | int hdigits hlimit =>
    cases hs
    obtain ⟨hdigit, hrun⟩ := List.forall_mem_cons.1 hdigits
    obtain ⟨htake, hdrop⟩ := span_append hrun hrest
    simp only [takeToken, hdigit, htake, hdrop, hlimit, if_true]
  | name hstart hparts =>
    cases hs
    obtain ⟨htake, hdrop⟩ := span_append hparts hrest
    simp [takeToken, not_isDigit_of_isNameStart hstart, hstart, htake, hdrop]
  | @string _ s hquote hinside =>
    cases hs
    have hspan : ∀ d ∈ s, decide (d ≠ c) = true :=
      fun d hd => decide_eq_true fun heq => hinside (heq ▸ hd)
    have hclose : ∀ d ∈ (c :: rest).head?, decide (d ≠ c) = false := by simp
    obtain ⟨htake, hdrop⟩ := span_append hspan hclose
    rw [takeToken_of_quote hquote, List.append_assoc, List.singleton_append, htake, hdrop]
  | operator op => exact takeToken_operator hs.symm hrest
  | opening => cases hs; rfl
  | closing => cases hs; rfl

/-! ### Rows of lexemes -/

@[simp] lemma textOf_nil : Lexeme.textOf [] = [] := rfl

@[simp] lemma textOf_cons (l : Lexeme) (more : List Lexeme) :
    Lexeme.textOf (l :: more) = l.blanks ++ (l.written ++ Lexeme.textOf more) := by
  simp [Lexeme.textOf]

lemma isBlank_eq_false_of_isDigit {c : Char} (h : c.isDigit = true) : isBlank c = false := by
  simp only [Char.isDigit, Bool.and_eq_true, decide_eq_true_eq, ge_iff_le,
    UInt32.le_iff_toNat_le] at h
  have hcode : 48 ≤ c.toNat ∧ c.toNat ≤ 57 := h
  simp [isBlank, inRanges, blankRanges]
  omega

lemma isBlank_eq_false_of_isNameStart {c : Char} (h : isNameStart c = true) :
    isBlank c = false := by
  rcases code_of_isNameStart h with hupper | hlower | rfl
  · simp [isBlank, inRanges, blankRanges]
    omega
  · simp [isBlank, inRanges, blankRanges]
    omega
  · decide

/-- A token begins with a character that is no blank. -/
lemma Token.Written.exists_cons {token : Token} {s : List Char} (h : token.Written s) :
    ∃ c more, s = c :: more ∧ isBlank c = false := by
  cases h with
  | int hdigits _ =>
    exact ⟨_, _, rfl, isBlank_eq_false_of_isDigit (hdigits _ List.mem_cons_self)⟩
  | name hstart _ => exact ⟨_, _, rfl, isBlank_eq_false_of_isNameStart hstart⟩
  | string hquote _ => exact ⟨_, _, rfl, by rcases hquote with rfl | rfl <;> decide⟩
  | operator op => cases op <;> exact ⟨_, _, rfl, by decide⟩
  | opening => exact ⟨_, _, rfl, by decide⟩
  | closing => exact ⟨_, _, rfl, by decide⟩

lemma take_length_sub (run rest : List Char) :
    (run ++ rest).take ((run ++ rest).length - rest.length) = run := by
  rw [List.length_append, Nat.add_sub_cancel, List.take_left]

/-- The lexemes of a text are in a row there. -/
lemma layout_of_lexemesFrom {fuel : Nat} {s tail : List Char} {ls : List Lexeme}
    (hfuel : s.length ≤ fuel) (h : lexemesFrom fuel s = .ok (ls, tail)) :
    s = Lexeme.textOf ls ++ tail ∧ Layout ls tail := by
  induction fuel generalizing s ls tail with
  | zero =>
    obtain rfl := List.length_eq_zero_iff.1 (Nat.le_zero.1 hfuel)
    cases h
    exact ⟨rfl, .nil (by simp)⟩
  | succ fuel ih =>
    obtain ⟨blanks, rest, rfl, hblanks, hrest⟩ := exists_span isBlank s
    obtain ⟨htake, hdrop⟩ := span_append hblanks hrest
    rw [lexemesFrom, htake, hdrop] at h
    cases rest with
    | nil =>
      cases h
      exact ⟨by simp, .nil (by simpa using hblanks)⟩
    | cons c rest =>
      obtain ⟨⟨token, behind⟩, htoken, h⟩ := bind_eq_ok_iff.1 h
      obtain ⟨⟨more, tail'⟩, hmore, hout⟩ := bind_eq_ok_iff.1 h
      cases hout
      obtain ⟨run, rfl, hwritten, hend⟩ := written_of_takeToken htoken
      simp only [List.length_append, List.length_cons] at hfuel
      obtain ⟨rfl, hlayout⟩ := ih (by omega) hmore
      rw [take_length_sub]
      exact ⟨by simp, .cons hblanks hwritten hend hlayout⟩

/-- Lexemes in a row are found where they are. -/
lemma lexemesFrom_of_layout {fuel : Nat} {ls : List Lexeme} {tail : List Char}
    (h : Layout ls tail) (hfuel : (Lexeme.textOf ls ++ tail).length ≤ fuel) :
    lexemesFrom fuel (Lexeme.textOf ls ++ tail) = .ok (ls, tail) := by
  induction h generalizing fuel with
  | nil hblanks =>
    cases fuel with
    | zero => rfl
    | succ fuel =>
      have hend : ∀ c ∈ ([] : List Char).head?, isBlank c = false := by simp
      obtain ⟨-, hdrop⟩ := span_append hblanks hend
      rw [List.append_nil] at hdrop
      rw [textOf_nil, List.nil_append, lexemesFrom, hdrop]
  | @cons l more tail hblanks hwritten hend hmore ih =>
    obtain ⟨blanks, written, token⟩ := l
    dsimp only at hblanks hwritten hend
    obtain ⟨c, run, rfl, hc⟩ := hwritten.exists_cons
    rw [textOf_cons, List.append_assoc, List.append_assoc] at hfuel ⊢
    simp only [List.length_append, List.length_cons] at hfuel
    obtain ⟨fuel, rfl⟩ := Nat.exists_eq_succ_of_ne_zero (show fuel ≠ 0 by omega)
    have hstart : ∀ d ∈ (c :: (run ++ (Lexeme.textOf more ++ tail))).head?, isBlank d = false := by
      simpa using hc
    obtain ⟨htake, hdrop⟩ := span_append hblanks hstart
    have hlength : (Lexeme.textOf more ++ tail).length ≤ fuel := by
      rw [List.length_append]
      omega
    rw [List.cons_append, lexemesFrom, htake, hdrop]
    dsimp only
    refine bind_eq_ok_iff.2 ⟨_, takeToken_of_written hwritten hend, ?_⟩
    refine bind_eq_ok_iff.2 ⟨_, ih hlength, ?_⟩
    rw [take_length_sub]
    rfl

lemma lexFrom_eq_map (fuel : Nat) (s : List Char) :
    lexFrom fuel s = (lexemesFrom fuel s).map fun out => out.1.map Lexeme.token := by
  induction fuel generalizing s with
  | zero => rfl
  | succ fuel ih =>
    rw [lexFrom, lexemesFrom]
    cases s.dropWhile isBlank with
    | nil => rfl
    | cons c rest =>
      dsimp only
      cases takeToken c rest with
      | error e => rfl
      | ok out =>
        show lexFrom fuel out.2 >>= _ = (lexemesFrom fuel out.2 >>= _).map _
        rw [ih]
        cases lexemesFrom fuel out.2 <;> rfl

/-- A text is split into the lexemes that are in a row there, each as long as it can be. -/
theorem lexemes_eq_ok_iff {s tail : List Char} {ls : List Lexeme} :
    lexemes s = .ok (ls, tail) ↔ s = Lexeme.textOf ls ++ tail ∧ Layout ls tail := by
  constructor
  · exact layout_of_lexemesFrom (Nat.le_refl _)
  · rintro ⟨rfl, h⟩
    exact lexemesFrom_of_layout h (Nat.le_refl _)

/-- The tokens of a text are those of its lexemes. -/
lemma lex_eq_ok_iff {s : List Char} {tokens : List Token} :
    lex s = .ok tokens ↔
      ∃ ls tail, s = Lexeme.textOf ls ++ tail ∧ Layout ls tail ∧ ls.map Lexeme.token = tokens := by
  have hlex : lex s = (lexemes s).map fun out => out.1.map Lexeme.token := lexFrom_eq_map ..
  rw [hlex, map_eq_ok_iff, Prod.exists]
  simp only [lexemes_eq_ok_iff, and_assoc]

/-- A text is a condition just when the tokens of its lexemes form one. -/
lemma parse_eq_ok_iff {s : List Char} {e : Expr} :
    parse s = .ok e ↔ ∃ ls tail, s = Lexeme.textOf ls ++ tail ∧ Layout ls tail ∧
      Derives .or (ls.map Lexeme.token) e := by
  unfold parse
  constructor
  · intro h
    split at h
    · cases h
    · rename_i tokens hlex
      obtain ⟨ls, tail, rfl, hlayout, rfl⟩ := lex_eq_ok_iff.1 hlex
      exact ⟨ls, tail, rfl, hlayout, parseTokens_eq_ok_iff.1 (mapError_eq_ok_iff.1 h)⟩
  · rintro ⟨ls, tail, rfl, hlayout, hderives⟩
    rw [lex_eq_ok_iff.2 ⟨ls, tail, rfl, hlayout, rfl⟩]
    exact mapError_eq_ok_iff.2 (parseTokens_eq_ok_iff.2 hderives)

end Condition

end CouchLoad
