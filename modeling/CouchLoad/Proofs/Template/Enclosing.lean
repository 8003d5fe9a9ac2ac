import CouchLoad.Proofs.Condition.Nesting
import CouchLoad.Proofs.Template.Conditional

/-!
# Conditions inside of templates

A template finds the end of a condition by its parentheses, and takes those in string literals for
parentheses like all others. So a condition can be written in a template as it is just when all the
parentheses in its text balance each other.
-/

namespace CouchLoad.Template

open Condition

/-- Inside of a condition the parentheses are counted. -/
lemma step_of_nest {depth depth' : Nat} {c : Char} (h : nest depth c = some depth')
    (rest : List Char) : Extent.step (.condition depth) c rest = .stay (.condition depth') := by
  unfold nest at h
  unfold Extent.step
  split_ifs at h with hopening hclosing hdepth
  · cases h
    simp [hopening]
  · cases h
    obtain ⟨depth, rfl⟩ := Nat.exists_eq_succ_of_ne_zero hdepth
    simp [hclosing]
  · cases h
    simp [hopening, hclosing]

lemma nest_eq_none_iff {depth : Nat} {c : Char} : nest depth c = none ↔ c = ')' ∧ depth = 0 := by
  unfold nest
  split_ifs with hopening hclosing hdepth
  · simp [hopening]
  · simp [hclosing, hdepth]
  · simp [hdepth]
  · simp [hclosing]

/-- The parenthesis that closes none ends the condition, if there is a brace behind it. -/
lemma read?_closing {s rest : List Char} {segments : List Segment} :
    read? (.condition 0) (')' :: s) = some (segments, rest) ↔ s = '}' :: rest ∧ segments = [] := by
  rw [read?_plain _ (isPlain_of_ne (by decide) (by decide) s)]
  by_cases hs : s.head? = some '}'
  · obtain ⟨s, rfl⟩ := List.head?_eq_some_iff.1 hs
    have hstep : Extent.step (.condition 0) ')' ('}' :: s) = .finish s := rfl
    rw [hstep]
    constructor
    · intro h
      cases h
      exact ⟨rfl, rfl⟩
    · rintro ⟨h, rfl⟩
      cases h
      rfl
  · have hstep : Extent.step (.condition 0) ')' s = .unbalanced := by
      unfold Extent.step
      cases s with
      | nil => rfl
      | cons c s =>
        rw [List.head?_cons, Option.some.injEq] at hs
        simp [hs]
    rw [hstep]
    constructor
    · intro h
      cases h
    · rintro ⟨rfl, -⟩
      exact absurd rfl hs

/-- A condition without hash signs ends at the first parenthesis that closes none of its own. -/
lemma read?_condition_eq_some_iff {depth : Nat} {s rest : List Char} {segments : List Segment}
    (h : '#' ∉ s) : read? (.condition depth) s = some (segments, rest) ↔
      ∃ source, s = source ++ (conditionEnd ++ rest) ∧ nesting depth source = some 0 ∧
        segments = verbatim source := by
  induction s generalizing depth segments with
  | nil => simp [read?_nil, conditionEnd]
  | cons c s ih =>
    have hs : '#' ∉ s := fun hin => h (List.mem_cons_of_mem c hin)
    cases hnest : nest depth c with
    | some depth' =>
      rw [read?_plain _ (isPlain_of_notMem h), step_of_nest hnest]
      constructor
      · intro hread
        obtain ⟨⟨behind, rest'⟩, hbehind, hout⟩ := Option.map_eq_some_iff.1 hread
        cases hout
        obtain ⟨source, rfl, hsource, rfl⟩ := (ih hs).1 hbehind
        exact ⟨c :: source, rfl, by rw [nesting_cons, hnest]; exact hsource, by simp⟩
      · rintro ⟨source, heq, hsource, rfl⟩
        cases source with
        | nil =>
          -- the condition would end here, at a parenthesis that is counted
          obtain ⟨rfl, rfl⟩ : c = ')' ∧ depth = 0 :=
            ⟨(List.cons.inj heq).1, Option.some.inj hsource⟩
          cases hnest
        | cons c' source =>
          obtain ⟨rfl, rfl⟩ := List.cons.inj heq
          rw [nesting_cons, hnest] at hsource
          refine Option.map_eq_some_iff.2 ⟨_, (ih hs).2 ⟨source, rfl, hsource, rfl⟩, ?_⟩
          rw [inFront, consChar_verbatim]
    | none =>
      obtain ⟨rfl, rfl⟩ := nest_eq_none_iff.1 hnest
      rw [read?_closing]
      constructor
      · rintro ⟨rfl, rfl⟩
        exact ⟨[], rfl, rfl, rfl⟩
      · rintro ⟨_ | ⟨c, source⟩, heq, hsource, rfl⟩
        · exact ⟨(List.cons.inj heq).2, rfl⟩
        · obtain ⟨rfl, -⟩ := List.cons.inj heq
          rw [nesting_cons, hnest] at hsource
          cases hsource

/-- The head of a condition. -/
lemma take?_condition (rest : List Char) :
    Head.take? ('i' :: 'f' :: '(' :: rest) = some (.condition, rest) := rfl

/-- A condition with a field name behind it is read as these two just when the parentheses in its
text balance each other, those in its string literals among them. -/
theorem tokenize_conditionMark {source name : List Char} {e : Expr}
    (hparse : Condition.parse source = .ok e) (hsource : '#' ∉ source) (hname : '#' ∉ name) :
    (tokenize (conditionMark source ++ name) = .ok (.condition [.literal source] :: verbatim name) ↔
        Matched source) ∧
      ((∀ text ∈ stringLiterals source, Matched text.toList) → Matched source) := by
  refine ⟨?_, matched_of_parse hparse⟩
  have hne : source ≠ [] := by
    rintro rfl
    cases hparse
  have htext : conditionMark source ++ name =
      '#' :: '{' :: 'i' :: 'f' :: '(' :: (source ++ (conditionEnd ++ name)) := by
    simp [conditionMark, conditionEnd]
  have hfree : '#' ∉ source ++ (conditionEnd ++ name) := by
    simp [hsource, hname, conditionEnd]
  rw [tokenize_eq_ok_iff, htext, read?_condition _ (take?_condition _)]
  constructor
  · intro h
    obtain ⟨out, hout, hsegments⟩ := Option.map_eq_some_iff.1 h
    obtain ⟨⟨inside, behind⟩, hinside, hout⟩ := Option.bind_eq_some_iff.1 hout
    obtain ⟨rest, -, rfl⟩ := Option.map_eq_some_iff.1 hout
    obtain ⟨source', -, hmatched, rfl⟩ := (read?_condition_eq_some_iff hfree).1 hinside
    rw [inFront, ← verbatim_of_ne_nil hne] at hsegments
    injection hsegments with hfirst
    injection hfirst with hverbatim
    rwa [Matched, ← verbatim_injective hverbatim]
  · intro h
    have hinside : read? (.condition 0) (source ++ (conditionEnd ++ name)) =
        some (verbatim source, name) := (read?_condition_eq_some_iff hfree).2 ⟨source, rfl, h, rfl⟩
    rw [hinside, Option.bind_some, read?_text_of_notMem hname, verbatim_of_ne_nil hne]
    rfl

/-- An instance, in which a string literal holds parentheses. -/
theorem tokenize_conditionMark_parentheses :
    let source := "db_prefix == '(a)'".toList
    let name := "b)".toList
    (∃ e, Condition.parse source = .ok e) ∧ '#' ∉ source ∧ '#' ∉ name ∧
      tokenize (conditionMark source ++ name) =
        .ok (.condition [.literal source] :: verbatim name) := by
  intro source name
  have hparse : Condition.parse source = .ok (.binary (.compare .eq) (.var .dbPrefix)
      (.literal (.string "(a)"))) := by decide +kernel
  have hsource : '#' ∉ source := by decide
  have hname : '#' ∉ name := by decide
  have hmatched : Matched source := by decide
  exact ⟨⟨_, hparse⟩, hsource, hname, (tokenize_conditionMark hparse hsource hname).1.2 hmatched⟩

/-- A parenthesis in a string literal ends the condition too early, or keeps it from ending. With a
brace behind it, the condition is cut off there. -/
theorem tokenize_parenthesis_in_string :
    let early := "db_prefix == ')'".toList
    let late := "user_prefix != '('".toList
    let cut := "db_prefix == ')\x7d'".toList
    ((∃ e, Condition.parse early = .ok e) ∧ tokenize (conditionMark early ++ ['a']) =
      .error (.invalidPlaceholder "#\x7bif(db_prefix == ')".toList .unbalancedParenthesis)) ∧
    ((∃ e, Condition.parse late = .ok e) ∧
      tokenize (conditionMark late ++ ['a']) = .error (.unterminatedPlaceholder 0)) ∧
    (∃ e, Condition.parse cut = .ok e) ∧ tokenize (conditionMark cut ++ ['a']) =
      .ok [.condition [.literal "db_prefix == '".toList], .literal "')\x7da".toList] := by
  intro early late cut
  have hearly : Condition.parse early = .ok (.binary (.compare .eq) (.var .dbPrefix)
      (.literal (.string ")"))) := by decide +kernel
  have hlate : Condition.parse late = .ok (.binary (.compare .ne) (.var .userPrefix)
      (.literal (.string "("))) := by decide +kernel
  have hcut : Condition.parse cut = .ok (.binary (.compare .eq) (.var .dbPrefix)
      (.literal (.string ")\x7d"))) := by decide +kernel
  exact ⟨⟨⟨_, hearly⟩, rfl⟩, ⟨⟨_, hlate⟩, rfl⟩, ⟨_, hcut⟩, rfl⟩

end CouchLoad.Template
