import CouchLoad.Proofs.Condition.Lexemes
import CouchLoad.Proofs.Text.Numeral

/-!
# Tokens in print

Tokens that are printed with blanks between them are read back as they were. Every text is read one
token after the other, of operators the longest one that stands there, until it ends or nothing can
be read: a number that is too large, a string without an end, or a character that begins no token.
-/

namespace CouchLoad

namespace Condition

open Text

/-! ### One token after the other -/

lemma length_of_takeToken {c : Char} {s rest : List Char} {token : Token}
    (h : takeToken c s = .ok (token, rest)) : rest.length ≤ s.length := by
  obtain ⟨more, rfl, -, -⟩ := written_of_takeToken h
  rw [List.length_append]
  exact Nat.le_add_left _ _

/-- The fuel does not matter where there is enough of it. -/
lemma lexFrom_congr {fuel fuel' : Nat} {s : List Char} (h : s.length ≤ fuel)
    (h' : s.length ≤ fuel') : lexFrom fuel s = lexFrom fuel' s := by
  induction fuel generalizing fuel' s with
  | zero =>
    obtain rfl := List.length_eq_zero_iff.1 (Nat.le_zero.1 h)
    cases fuel' <;> rfl
  | succ fuel ih =>
    cases fuel' with
    | zero =>
      obtain rfl := List.length_eq_zero_iff.1 (Nat.le_zero.1 h')
      rfl
    | succ fuel' =>
      have hdrop : (s.dropWhile isBlank).length ≤ s.length := s.length_dropWhile_le isBlank
      rw [lexFrom, lexFrom]
      cases hrest : s.dropWhile isBlank with
      | nil => rfl
      | cons c rest =>
        rw [hrest, List.length_cons] at hdrop
        dsimp only
        cases htoken : takeToken c rest with
        | error e => rfl
        | ok out =>
          have hlength := length_of_takeToken htoken
          have hbehind : lexFrom fuel out.2 = lexFrom fuel' out.2 := ih (by omega) (by omega)
          show lexFrom fuel out.2 >>= _ = lexFrom fuel' out.2 >>= _
          rw [hbehind]

/-- The tokens of a text are the first one and those of the text behind it. -/
lemma lex_eq (s : List Char) : lex s = match s.dropWhile isBlank with
    | [] => .ok []
    | c :: rest => do
      let (token, behind) ← takeToken c rest
      let tokens ← lex behind
      return token :: tokens := by
  have hlex : lex s = lexFrom (s.length + 1) s := lexFrom_congr (Nat.le_refl _) (Nat.le_succ _)
  have hdrop : (s.dropWhile isBlank).length ≤ s.length := s.length_dropWhile_le isBlank
  rw [hlex, lexFrom]
  cases hrest : s.dropWhile isBlank with
  | nil => rfl
  | cons c rest =>
    rw [hrest, List.length_cons] at hdrop
    dsimp only
    cases htoken : takeToken c rest with
    | error e => rfl
    | ok out =>
      have hlength := length_of_takeToken htoken
      have hbehind : lexFrom s.length out.2 = lex out.2 :=
        lexFrom_congr (by omega) (Nat.le_refl _)
      show lexFrom s.length out.2 >>= _ = lex out.2 >>= _
      rw [hbehind]

/-- Blanks in front of a text make no difference. -/
lemma lex_of_blanks {blanks rest : List Char} {c : Char} (hblanks : ∀ d ∈ blanks, isBlank d)
    (hc : isBlank c = false) : lex (blanks ++ c :: rest) = do
      let (token, behind) ← takeToken c rest
      let tokens ← lex behind
      return token :: tokens := by
  have hend : ∀ d ∈ (c :: rest).head?, isBlank d = false := by simpa using hc
  rw [lex_eq, (span_append hblanks hend).2]

/-- Lexemes in front of a text are read first. -/
lemma lex_of_row {ls : List Lexeme} {rest : List Char} (h : Row ls rest) :
    lex (Lexeme.textOf ls ++ rest) = (lex rest).map (ls.map Lexeme.token ++ ·) := by
  induction h with
  | nil rest =>
    show lex rest = (lex rest).map fun tokens => tokens
    cases lex rest <;> rfl
  | @cons l more rest hblanks hwritten hend hmore ih =>
    obtain ⟨blanks, written, token⟩ := l
    dsimp only at hblanks hwritten hend
    obtain ⟨c, run, rfl, hc⟩ := hwritten.exists_cons
    have htext : Lexeme.textOf (⟨blanks, c :: run, token⟩ :: more) ++ rest =
        blanks ++ c :: (run ++ (Lexeme.textOf more ++ rest)) := by simp
    rw [htext, lex_of_blanks hblanks hc, takeToken_of_written hwritten hend]
    show lex (Lexeme.textOf more ++ rest) >>= _ = _
    rw [ih]
    cases lex rest <;> rfl

/-! ### Operators -/

/-- The symbol of an operator is one character or two. -/
lemma symbol_cases (op : Operator) :
    (∃ c, op.symbol.toList = [c] ∧ Operator.ofChar? c = some op) ∨
      ∃ c d, op.symbol.toList = [c, d] ∧ Operator.ofPair? c d = some op := by
  cases op with
  | lt | gt | mod | not | minus => exact .inl ⟨_, rfl, rfl⟩
  | or | and | eq | ne | le | ge => exact .inr ⟨_, _, rfl, rfl⟩

/-- An operator in front of a text is one of the first character, or of the first two. -/
lemma operator_of_prefix {op : Operator} {c : Char} {s : List Char}
    (h : op.symbol.toList <+: c :: s) :
    op.symbol.toList = [c] ∧ Operator.ofChar? c = some op ∨
      ∃ d, s.head? = some d ∧ op.symbol.toList = [c, d] ∧ Operator.ofPair? c d = some op := by
  rcases symbol_cases op with ⟨c', hsymbol, hop⟩ | ⟨c', d, hsymbol, hop⟩
  · rw [hsymbol] at h
    obtain ⟨rfl, -⟩ := List.cons_prefix_cons.1 h
    exact .inl ⟨hsymbol, hop⟩
  · rw [hsymbol] at h
    obtain ⟨rfl, hpair⟩ := List.cons_prefix_cons.1 h
    obtain ⟨rest, rfl⟩ := hpair
    exact .inr ⟨d, rfl, hsymbol, hop⟩

/-- Where an operator stands, the longest one that stands there is read. -/
lemma takeToken_longest {op : Operator} {c : Char} {s : List Char}
    (h : op.symbol.toList <+: c :: s) :
    ∃ longest rest, takeToken c s = .ok (.operator longest, rest) ∧
      c :: s = longest.symbol.toList ++ rest ∧
      ∀ op' : Operator, op'.symbol.toList <+: c :: s →
        op'.symbol.length ≤ longest.symbol.length := by
  have hhead : op.symbol.toList.head? = some c := by
    rcases operator_of_prefix h with ⟨hsymbol, -⟩ | ⟨d, -, hsymbol, -⟩ <;> rw [hsymbol] <;> rfl
  rw [takeToken_of_operator hhead]
  cases hpair : s.head?.bind (Operator.ofPair? c) with
  | some longest =>
    obtain ⟨d, hd, hlongest⟩ := Option.bind_eq_some_iff.1 hpair
    obtain ⟨rest, rfl⟩ := List.head?_eq_some_iff.1 hd
    have hsymbol := symbol_of_ofPair? hlongest
    refine ⟨longest, rest, rfl, by rw [hsymbol]; rfl, fun op' hop' => ?_⟩
    rw [← String.length_toList, ← String.length_toList, hsymbol]
    rcases operator_of_prefix hop' with ⟨hsymbol', -⟩ | ⟨d', -, hsymbol', -⟩ <;> simp [hsymbol']
  | none =>
    -- no two characters form an operator here
    have hsingle : ∀ op' : Operator, op'.symbol.toList <+: c :: s →
        op'.symbol.toList = [c] ∧ Operator.ofChar? c = some op' := by
      intro op' hop'
      rcases operator_of_prefix hop' with hchar | ⟨d, hd, -, hop⟩
      · exact hchar
      · rw [hd, Option.bind_some, hop] at hpair
        cases hpair
    obtain ⟨hsymbol, hchar⟩ := hsingle op h
    rw [hchar]
    refine ⟨op, s, rfl, by rw [hsymbol]; rfl, fun op' hop' => ?_⟩
    rw [← String.length_toList, ← String.length_toList, hsymbol, (hsingle op' hop').1]

/-! ### Errors -/

/-- Every digit is written as a number. -/
lemma written_digit {c : Char} (hc : c.isDigit = true) :
    (Token.int (natOfDigits [c])).Written [c] := by
  refine .int (by simpa using hc) ?_
  have hvalue : natOfDigits [c] = digitValue c := by simp [natOfDigits]
  have hlimit : 10 ≤ integerLimit := by decide
  rw [hvalue]
  exact Nat.lt_of_lt_of_le (digitValue_lt hc) hlimit

lemma arises_of_takeToken {c : Char} {rest : List Char} {e : LexError}
    (h : takeToken c rest = .error e) : e.Arises c rest := by
  unfold takeToken at h
  split_ifs at h with hdigit hname hquote hopening hclosing
  · obtain ⟨run, behind, rfl, hrun, hbehind⟩ := exists_span Char.isDigit rest
    obtain ⟨htake, hdrop⟩ := span_append hrun hbehind
    rw [htake, hdrop] at h
    dsimp only at h
    split_ifs at h with hlimit
    cases h
    exact .integer (List.forall_mem_cons.2 ⟨hdigit, hrun⟩) hbehind (Nat.not_lt.1 hlimit)
  · split at h
    · rename_i hnone
      cases h
      refine .string (by simpa using hquote) fun hin => ?_
      simpa using List.dropWhile_eq_nil_iff.1 hnone c hin
    · cases h
  · split at h
    · cases h
    · cases h
    · rename_i hpair hchar
      cases h
      have hplain : c ≠ '"' ∧ c ≠ '\'' := by simpa using hquote
      refine .character hplain fun token s hwritten hprefix => ?_
      cases hwritten with
      | int hdigits _ =>
        obtain ⟨rfl, -⟩ := List.cons_prefix_cons.1 hprefix
        exact hdigit (hdigits _ List.mem_cons_self)
      | name hstart _ =>
        obtain ⟨rfl, -⟩ := List.cons_prefix_cons.1 hprefix
        exact hname hstart
      | string hquote' _ =>
        obtain ⟨rfl, -⟩ := List.cons_prefix_cons.1 hprefix
        exact hquote (by simpa using hquote')
      | operator op =>
        rcases operator_of_prefix hprefix with ⟨-, hop⟩ | ⟨d, hd, -, hop⟩
        · rw [hchar] at hop
          cases hop
        · rw [hd, Option.bind_some, hop] at hpair
          cases hpair
      | opening =>
        obtain ⟨heq, -⟩ := List.cons_prefix_cons.1 hprefix
        exact hopening heq.symm
      | closing =>
        obtain ⟨heq, -⟩ := List.cons_prefix_cons.1 hprefix
        exact hclosing heq.symm

/-- Reading a token fails just where an error arises. -/
lemma takeToken_eq_error_iff {c : Char} {rest : List Char} {e : LexError} :
    takeToken c rest = .error e ↔ e.Arises c rest := by
  refine ⟨arises_of_takeToken, fun h => ?_⟩
  cases h with
  | integer hdigits hend hlimit =>
    obtain ⟨hdigit, hrun⟩ := List.forall_mem_cons.1 hdigits
    obtain ⟨htake, hdrop⟩ := span_append hrun hend
    rw [takeToken, if_pos hdigit, htake]
    exact if_neg (Nat.not_lt.2 hlimit)
  | string hquote hopen =>
    have hdrop : rest.dropWhile (· ≠ c) = [] :=
      List.dropWhile_eq_nil_iff.2 fun d hd => decide_eq_true fun heq => hopen (heq ▸ hd)
    rw [takeToken_of_quote hquote, hdrop]
  | character hquote hnone =>
    cases hout : takeToken c rest with
    | ok out =>
      obtain ⟨token, behind⟩ := out
      obtain ⟨more, rfl, hwritten, -⟩ := written_of_takeToken hout
      exact absurd (List.prefix_append (c :: more) behind) (hnone _ _ hwritten)
    | error e =>
      cases arises_of_takeToken hout with
      | integer hdigits _ _ =>
        have hdigit := written_digit (hdigits c List.mem_cons_self)
        exact absurd (List.prefix_append [c] _) (hnone _ _ hdigit)
      | string hquote' _ => exact absurd hquote' (not_or.2 hquote)
      | character _ _ => rfl

lemma lex_of_all_blank {s : List Char} (h : ∀ c ∈ s, isBlank c) : lex s = .ok [] := by
  rw [lex_eq, List.dropWhile_eq_nil_iff.2 h]

/-- A text cannot be split just where an error arises behind tokens that can be read. -/
lemma lex_eq_error_iff {s : List Char} {e : LexError} :
    lex s = .error e ↔ ∃ ls blanks c rest, s = Lexeme.textOf ls ++ (blanks ++ c :: rest) ∧
      Row ls (blanks ++ c :: rest) ∧ (∀ d ∈ blanks, isBlank d) ∧ isBlank c = false ∧
      e.Arises c rest := by
  constructor
  · -- by induction on the length: what is behind a token is shorter
    induction hn : s.length using Nat.strong_induction_on generalizing s with
    | _ n ih =>
    intro h
    obtain ⟨blanks, rest, rfl, hblanks, hrest⟩ := exists_span isBlank s
    cases rest with
    | nil =>
      rw [List.append_nil, lex_of_all_blank hblanks] at h
      cases h
    | cons c rest =>
      have hc : isBlank c = false := hrest c rfl
      rw [lex_of_blanks hblanks hc] at h
      rcases bind_eq_error_iff.1 h with herror | ⟨⟨token, behind⟩, htoken, hbehind⟩
      · exact ⟨[], blanks, c, rest, rfl, .nil _, hblanks, hc, arises_of_takeToken herror⟩
      · have herror : lex behind = .error e := by
          rcases bind_eq_error_iff.1 hbehind with herror | ⟨_, -, habsurd⟩
          · exact herror
          · cases habsurd
        obtain ⟨run, rfl, hwritten, hend⟩ := written_of_takeToken htoken
        simp only [List.length_append, List.length_cons] at hn
        obtain ⟨ls, blanks', c', rest', rfl, hrow, hblanks', hc', harises⟩ :=
          ih behind.length (by omega) rfl herror
        refine ⟨⟨blanks, c :: run, token⟩ :: ls, blanks', c', rest', by simp, ?_, hblanks', hc',
          harises⟩
        exact .cons hblanks hwritten hend hrow
  · rintro ⟨ls, blanks, c, rest, rfl, hrow, hblanks, hc, harises⟩
    rw [lex_of_row hrow, lex_of_blanks hblanks hc, takeToken_eq_error_iff.2 harises]
    rfl

/-! ### Printing -/

/-- A token in print is a way to write it. -/
lemma Token.PrintsIn.written {token : Token} {quote : Char} (h : token.PrintsIn quote) :
    token.Written (token.print quote) := by
  cases token with
  | int value =>
    obtain ⟨c, s, hs⟩ := List.exists_cons_of_ne_nil (decimal_ne_nil value)
    have hvalue : natOfDigits (c :: s) = value := hs ▸ natOfDigits_decimal value
    rw [Token.print, hs, ← hvalue]
    refine .int (fun d hd => isDigit_of_mem_decimal (hs ▸ hd)) ?_
    rw [hvalue]
    exact h
  | string text =>
    obtain ⟨hquote, hinside⟩ := h
    have hwritten := Token.Written.string hquote hinside
    rwa [String.ofList_toList] at hwritten
  | name text =>
    obtain ⟨c, s, hs, hstart, hparts⟩ := h
    have hwritten := Token.Written.name hstart hparts
    rwa [← hs, String.ofList_toList] at hwritten
  | operator op => exact .operator op
  | opening => exact .opening
  | closing => exact .closing

/-- A string can be printed unless it contains both quotes. -/
lemma exists_printsIn_string_iff {text : String} :
    (∃ quote, (Token.string text).PrintsIn quote) ↔ '"' ∉ text.toList ∨ '\'' ∉ text.toList := by
  constructor
  · rintro ⟨quote, rfl | rfl, hinside⟩
    · exact .inl hinside
    · exact .inr hinside
  · rintro (hinside | hinside)
    · exact ⟨_, .inl rfl, hinside⟩
    · exact ⟨_, .inr rfl, hinside⟩

/-- No token goes on with a blank. -/
lemma continues_of_isBlank {c : Char} (h : isBlank c = true) (token : Token) :
    token.continues c = false := by
  rw [Bool.eq_false_iff]
  intro hcontinues
  refine Bool.false_ne_true (Eq.trans ?_ h)
  cases token with
  | int value => exact (isBlank_eq_false_of_isDigit hcontinues).symm
  | name text =>
    rcases Bool.or_eq_true_iff.1 hcontinues with halphanum | hunderscore
    · rcases Bool.or_eq_true_iff.1 halphanum with halpha | hdigit
      · have hstart : isNameStart c = true := Bool.or_eq_true_iff.2 (.inl halpha)
        exact (isBlank_eq_false_of_isNameStart hstart).symm
      · exact (isBlank_eq_false_of_isDigit hdigit).symm
    · have hstart : isNameStart c = true := Bool.or_eq_true_iff.2 (.inr hunderscore)
      exact (isBlank_eq_false_of_isNameStart hstart).symm
  | operator op =>
    obtain ⟨-, heq⟩ := Bool.and_eq_true_iff.1 hcontinues
    obtain rfl : c = '=' := of_decide_eq_true heq
    rfl
  | string | opening | closing => cases hcontinues

/-- Tokens that blanks keep apart are as long as they can be. -/
lemma Lexeme.Spaced.layout {ls : List Lexeme} {tail : List Char} (h : Spaced ls tail)
    (hwritten : ∀ l ∈ ls, l.token.Written l.written) : Layout ls tail := by
  induction ls with
  | nil => exact .nil h.behind
  | cons l more ih =>
    have hblanks : ∀ l' ∈ more, ∀ c ∈ l'.blanks, isBlank c :=
      fun l' hl' => h.blanks l' (List.mem_cons_of_mem l hl')
    have hmore : Spaced more tail :=
      ⟨hblanks, fun l' hl' => h.apart l' (List.mem_of_mem_tail hl'), h.behind⟩
    refine .cons (h.blanks l List.mem_cons_self) (hwritten l List.mem_cons_self) ?_
      (ih hmore fun l' hl' => hwritten l' (List.mem_cons_of_mem l hl'))
    intro c hc
    refine continues_of_isBlank ?_ l.token
    cases more with
    | nil => exact h.behind c (List.mem_of_mem_head? hc)
    | cons l' more =>
      obtain ⟨d, run, hrun⟩ := List.exists_cons_of_ne_nil (h.apart l' List.mem_cons_self)
      rw [textOf_cons, hrun] at hc
      obtain rfl : d = c := Option.some_inj.1 hc
      exact hblanks l' List.mem_cons_self d (hrun ▸ List.mem_cons_self)

/-- Tokens in print are read back where blanks keep them apart, and strings can be printed unless
they contain both quotes. Every text is read one token after the other, a shorter rest behind each
and of operators always the longest, and reading fails just at a number that is too large, a string
without an end or a character with which no token begins. -/
theorem lex_of_print :
    (∀ (ls : List Lexeme) (tail : List Char), Lexeme.Spaced ls tail →
      (∀ l ∈ ls, ∃ quote, l.token.PrintsIn quote ∧ l.written = l.token.print quote) →
      lex (Lexeme.textOf ls ++ tail) = .ok (ls.map Lexeme.token)) ∧
    (∀ text : String, (∃ quote, (Token.string text).PrintsIn quote) ↔
      '"' ∉ text.toList ∨ '\'' ∉ text.toList) ∧
    (∀ s, lex s = match s.dropWhile isBlank with
      | [] => .ok []
      | c :: rest => do
        let (token, behind) ← takeToken c rest
        let tokens ← lex behind
        return token :: tokens) ∧
    (∀ c s token rest, takeToken c s = .ok (token, rest) → rest.length ≤ s.length) ∧
    (∀ (op : Operator) (c : Char) (s : List Char), op.symbol.toList <+: c :: s →
      ∃ longest rest, takeToken c s = .ok (.operator longest, rest) ∧
        c :: s = longest.symbol.toList ++ rest ∧
        ∀ op' : Operator, op'.symbol.toList <+: c :: s →
          op'.symbol.length ≤ longest.symbol.length) ∧
    ∀ s e, lex s = .error e ↔ ∃ ls blanks c rest, s = Lexeme.textOf ls ++ (blanks ++ c :: rest) ∧
      Row ls (blanks ++ c :: rest) ∧ (∀ d ∈ blanks, isBlank d) ∧ isBlank c = false ∧
      e.Arises c rest := by
  refine ⟨fun ls tail hspaced hprinted => ?_, fun _ => exists_printsIn_string_iff, lex_eq,
    fun _ _ _ _ => length_of_takeToken, fun _ _ _ => takeToken_longest,
    fun _ _ => lex_eq_error_iff⟩
  have hwritten : ∀ l ∈ ls, l.token.Written l.written := by
    intro l hl
    obtain ⟨quote, hprints, hl⟩ := hprinted l hl
    exact hl ▸ hprints.written
  exact lex_eq_ok_iff.2 ⟨ls, tail, rfl, hspaced.layout hwritten, rfl⟩

/-- The greatest number, a tab, an operator, a line break, a string around a quote, a no-break space
and a name; an operator of two characters; and a text with a number that is too large. -/
theorem lex_of_print_row :
    let ls : List Lexeme :=
      [⟨[], "9223372036854775807".toList, .int 9223372036854775807⟩,
        ⟨['\t'], "<".toList, .operator .lt⟩, ⟨['\n'], "\"it's\"".toList, .string "it's"⟩,
        ⟨['\u00a0', ' '], "_x1".toList, .name "_x1"⟩]
    lex (Lexeme.textOf ls ++ [' ']) =
        .ok [.int 9223372036854775807, .operator .lt, .string "it's", .name "_x1"] ∧
      takeToken '<' ['=', '1'] = .ok (.operator .le, ['1']) ∧
      (∀ op : Operator, op.symbol.toList <+: ['<', '=', '1'] → op.symbol.length ≤ 2) ∧
      lex "a %9223372036854775808)".toList =
        .error (.integerOutOfRange "9223372036854775808".toList) := by
  intro ls
  obtain ⟨hprint, -, -, -, hlongest, herror⟩ := lex_of_print
  have hspaced : Lexeme.Spaced ls [' '] := by
    constructor
    · simp [ls, isBlank, inRanges, blankRanges]
    · simp [ls]
    · simp [isBlank, inRanges, blankRanges]
  have hprinted : ∀ l ∈ ls, ∃ quote, l.token.PrintsIn quote ∧ l.written = l.token.print quote := by
    simp only [ls, List.forall_mem_cons]
    refine ⟨⟨'"', ?_, rfl⟩, ⟨'"', trivial, rfl⟩, ⟨'"', ?_, rfl⟩, ⟨'"', ?_, rfl⟩, by simp⟩
    · exact (by decide : 9223372036854775807 < integerLimit)
    · exact ⟨.inl rfl, by decide⟩
    · exact ⟨'_', ['x', '1'], rfl, rfl, List.all_eq_true.1 rfl⟩
  refine ⟨hprint ls [' '] hspaced hprinted, rfl, ?_, ?_⟩
  · obtain ⟨longest, rest, htake, -, hmost⟩ := hlongest .lt '<' ['=', '1'] ⟨['=', '1'], rfl⟩
    obtain rfl : Operator.le = longest := by cases htake; rfl
    exact hmost
  · let before : List Lexeme := [⟨[], ['a'], .name "a"⟩, ⟨[' '], ['%'], .operator .mod⟩]
    have hrow : Row before "9223372036854775808)".toList :=
      .cons (by simp) (.name rfl (by simp)) (by rintro c ⟨⟩; rfl) <|
        .cons (List.all_eq_true.1 rfl) (.operator .mod) (by rintro c ⟨⟩; rfl) (.nil _)
    have harises : (LexError.integerOutOfRange "9223372036854775808".toList).Arises '9'
        ("223372036854775808".toList ++ [')']) :=
      .integer (List.all_eq_true.1 rfl) (by rintro c ⟨⟩; rfl) (by decide +kernel)
    exact (herror _ _).2 ⟨before, [], '9', _, rfl, hrow, by simp, rfl, harises⟩

end Condition

end CouchLoad
