import CouchLoad.Proofs.Template.Drafts
import CouchLoad.Template.Pruning
import Mathlib.Data.List.Infix

/-!
# Where a condition ends

The condition of a field name is delimited twice: by its parentheses when the template is read, and
by the last `)}` of the name once it has been resolved. Both find the same condition as long as the
bare name holds no `)}` itself.
-/

namespace CouchLoad.Template

open Entropy Text

/-! ### Last occurrences -/

/-- What ends a condition. -/
def conditionEnd : List Char := [')', '}']

lemma splitAtLast?_eq_none_iff {mark s : List Char} (hmark : mark ≠ []) :
    splitAtLast? mark s = none ↔ ¬ mark <:+: s := by
  induction s with
  | nil => simp [splitAtLast?, hmark]
  | cons c s ih =>
    unfold splitAtLast?
    rw [List.infix_cons_iff, not_or]
    cases hlast : splitAtLast? mark s with
    | some out =>
      have hin : mark <:+: s := by
        by_contra hnot
        rw [ih.2 hnot] at hlast
        cases hlast
      simp [hin]
    | none =>
      have hfront : mark.isPrefixOf? (c :: s) = none ↔ ¬ mark <+: c :: s := by
        rw [← List.isPrefixOf_iff_prefix, ← List.isSome_isPrefixOf?_eq_isPrefixOf]
        cases mark.isPrefixOf? (c :: s) <;> simp
      simp [ih.1 hlast, hfront]

/-- Text in front does not change where the last mark is. -/
lemma splitAtLast?_append {mark s before after : List Char} (front : List Char)
    (h : splitAtLast? mark s = some (before, after)) :
    splitAtLast? mark (front ++ s) = some (front ++ before, after) := by
  induction front with
  | nil => exact h
  | cons c front ih =>
    rw [List.cons_append, splitAtLast?, ih]
    rfl

/-- The last mark is the one behind which there is no other. -/
lemma splitAtLast?_conditionEnd (before : List Char) {after : List Char}
    (h : ¬ conditionEnd <:+: after) :
    splitAtLast? conditionEnd (before ++ conditionEnd ++ after) = some (before, after) := by
  have hafter := (splitAtLast?_eq_none_iff (by simp [conditionEnd])).2 h
  have hmark : splitAtLast? conditionEnd (conditionEnd ++ after) = some ([], after) := by
    simp [conditionEnd, splitAtLast?] at hafter ⊢
    simp [hafter, List.isPrefixOf?]
  have := splitAtLast?_append before hmark
  rwa [List.append_nil, ← List.append_assoc] at this

/-! ### Resolved names -/

/-- A name with blanks in front of its condition is split at the last mark behind the condition. -/
lemma splitConditional?_mark {blanks : List Char} (h : ∀ c ∈ blanks, isBlank c) (rest : List Char) :
    splitConditional? (blanks ++ ['#', '{', 'i', 'f', '('] ++ rest) =
      splitAtLast? conditionEnd rest := by
  have htrim : trimStart (blanks ++ ['#', '{', 'i', 'f', '('] ++ rest) =
      ['#', '{', 'i', 'f', '('] ++ rest := by
    unfold trimStart
    rw [List.append_assoc, List.dropWhile_append_of_pos h]
    rfl
  unfold splitConditional?
  rw [htrim]
  rfl

variable {ctx : Context}

/-- A name is split where its condition ends if the bare name holds no mark of an end, and at the
last such mark of the bare name otherwise. -/
theorem splitConditional?_expand {text blanks key : List Char} {front source name : List Segment}
    {s t : Source} (htext : tokenize text = .ok (front ++ .condition source :: name))
    (hfront : literalText? front = some blanks) (hblanks : ∀ c ∈ blanks, isBlank c)
    (hkey : expand ctx text s = some (key, t)) :
    ∃ e u n, draftAll ctx source s = some (e, u) ∧ draftAll ctx name u = some (n, t) ∧
      (splitConditional? key = some (e, n) ↔ ¬ conditionEnd <:+: n) ∧
      ∀ before after, n = before ++ conditionEnd ++ after → ¬ conditionEnd <:+: after →
        splitConditional? key = some (e ++ conditionEnd ++ before, after) := by
  have hdraft : draftAll ctx (front ++ .condition source :: name) s = some (key, t) := by
    rw [expand, htext] at hkey
    exact hkey
  rw [draftAll_append, draftAll_of_literalText? hfront, pure_bind, draftAll_cons, draft_condition,
    map_eq_pure_bind] at hdraft
  simp only [bind_assoc, pure_bind] at hdraft
  obtain ⟨e, u, hsource, hdraft⟩ := bind_eq_some_iff.1 hdraft
  obtain ⟨n, v, hname, hout⟩ := bind_eq_some_iff.1 hdraft
  cases hout
  have hsplit : splitConditional? (blanks ++ (conditionMark e ++ n)) =
      splitAtLast? conditionEnd (e ++ conditionEnd ++ n) := by
    rw [← splitConditional?_mark hblanks]
    simp [conditionMark, conditionEnd]
  refine ⟨e, u, n, hsource, hname, ?_, ?_⟩
  · rw [hsplit]
    constructor
    · intro hsame hin
      have hlast : splitAtLast? conditionEnd n ≠ none :=
        fun hnone => (splitAtLast?_eq_none_iff (by decide)).1 hnone hin
      obtain ⟨⟨before, after⟩, hlast⟩ := Option.ne_none_iff_exists'.1 hlast
      rw [splitAtLast?_append _ hlast, Option.some.injEq, Prod.mk.injEq] at hsame
      have hlength := congrArg List.length hsame.1
      simp [conditionEnd] at hlength
    · exact splitAtLast?_conditionEnd e
  · rintro before after rfl hafter
    rw [hsplit, ← splitAtLast?_conditionEnd (e ++ conditionEnd ++ before) hafter]
    simp only [List.append_assoc]

/-- An instance with parentheses in the condition and in the bare name. -/
theorem splitConditional?_expand_parentheses :
    let ctx : Context := ⟨1, "db", "user"⟩
    let s := Source.ofWords #[]
    let text := " #\x7bif(1 == (#\x7bdoc_id_counter\x7d))\x7da)b".toList
    let key := " #\x7bif(1 == (1))\x7da)b".toList
    let source := [.literal "1 == (".toList, .reference .counter, .literal ")".toList]
    let name := [.literal "a)b".toList]
    tokenize text = .ok ([.literal " ".toList] ++ .condition source :: name) ∧
      ∃ t, expand ctx text s = some (key, t) ∧
        ∃ e u n, draftAll ctx source s = some (e, u) ∧ draftAll ctx name u = some (n, t) ∧
          (splitConditional? key = some (e, n) ↔ ¬ conditionEnd <:+: n) := by
  intro ctx s text key source name
  have htext : tokenize text = .ok ([.literal " ".toList] ++ .condition source :: name) := rfl
  have hblanks : " ".toList.all isBlank = true := by decide
  have hkey : (expand ctx text s).map Prod.fst = some key := by decide +kernel
  obtain ⟨⟨key, t⟩, hkey, rfl⟩ := Option.map_eq_some_iff.1 hkey
  obtain ⟨e, u, n, hsource, hname, hsplit, -⟩ := splitConditional?_expand htext rfl
    (List.all_eq_true.1 hblanks) hkey
  exact ⟨htext, t, hkey, e, u, n, hsource, hname, hsplit⟩

/-- The bare name may hold the mark of an end, and then the name is not split where its condition
ends. -/
theorem splitConditional?_end_in_name :
    let ctx : Context := ⟨1, "db", "user"⟩
    let s := Source.ofWords #[]
    let text := "#\x7bif(true)\x7da)\x7db".toList
    let source := [.literal "true".toList]
    let name := [.literal "a)\x7db".toList]
    tokenize text = .ok (.condition source :: name) ∧
      (expand ctx text s).map Prod.fst = some text ∧
      (draftAll ctx source s).map Prod.fst = some "true".toList ∧
      (draftAll ctx name s).map Prod.fst = some "a)\x7db".toList ∧
      splitConditional? text = some ("true)\x7da".toList, "b".toList) ∧
      splitConditional? text ≠ some ("true".toList, "a)\x7db".toList) := by
  refine ⟨rfl, ?_, ?_, ?_, ?_, ?_⟩ <;> decide +kernel

end CouchLoad.Template
