import CouchLoad.Proofs.Template.Language
import CouchLoad.Proofs.Template.Substitution
import Mathlib.Data.List.Chain

/-!
# The spans that segments are read from

Nothing of a template is lost and nothing is read twice: the text is what its segments were read
from, one span after the other, and so is the inside of every placeholder. Text between
placeholders is kept in one piece, and a text without placeholders and escapes is kept as it is.
-/

namespace CouchLoad.Template

/-! ### Openings -/

/-- The text that a head is read from. -/
def Head.opening : Head → List Char
  | .simple (.reference r) => r.mark
  | .simple _ => '#' :: '{' :: CallKind.randomString.name.toList ++ ['}']
  | .call kind => '#' :: '{' :: kind.name.toList ++ ['(']
  | .condition => ['#', '{', 'i', 'f', '(']

/-- The heads that there are. -/
def Head.all : List Head :=
  [.simple (.reference .counter), .simple (.reference .dbPrefix), .simple (.reference .userPrefix),
    .simple (.call (.randomString none)), .call .randomInt, .call .randomString, .call .pick,
    .call .file, .condition]

/-- An opening brace and the name behind it are what a head is read from. -/
lemma Head.eq_opening_append {inner rest : List Char} {head : Head}
    (h : Head.take? inner = some (head, rest)) :
    '#' :: '{' :: inner = head.opening ++ rest ∧ head ∈ Head.all := by
  obtain ⟨name, behind, rfl, hname, hbehind⟩ := Text.exists_span isNamePart inner
  rw [take?_append hname hbehind] at h
  unfold Head.ofName? at h
  split at h
  · obtain ⟨segment, hsimple, hout⟩ := Option.map_eq_some_iff.1 h
    cases hout
    rcases Head.cases_of_simple? hsimple with ⟨rfl, rfl⟩ | ⟨r, rfl, rfl⟩
    · refine ⟨rfl, ?_⟩
      simp [Head.all]
    · refine ⟨?_, by cases r <;> simp [Head.all]⟩
      simp [opening, Reference.mark]
  · split at h
    · rename_i hname
      cases h
      subst hname
      exact ⟨rfl, by simp [Head.all]⟩
    · obtain ⟨kind, hkind, hout⟩ := Option.map_eq_some_iff.1 h
      cases hout
      obtain rfl : kind.name.toList = name := by simpa using List.find?_some hkind
      refine ⟨by simp [opening], by cases kind <;> simp [Head.all]⟩
  · cases h

/-! ### Spans -/

/-- A segment is read from a span of text. Of a placeholder, it is the brace and the name, what is
inside, and the brace that closes it. -/
inductive Covers : Segment → List Char → Prop where
  | literal (text : List Char) : Covers (.literal text) text
  | hash : Covers .hash ['\\', '#']
  | reference (r : Reference) : Covers (.reference r) r.mark
  | anyLength :
      Covers (.call (.randomString none)) (Head.simple (.call (.randomString none))).opening
  | call {kind : CallKind} {arguments : List Segment} {spans : List (List Char)}
      {plain : List Char} {c : Call} (harguments : List.Forall₂ Covers arguments spans)
      (hplain : literalText? arguments = some plain) (hcall : Call.ofArguments kind plain = .ok c) :
      Covers (.call c) (quoteCall kind spans.flatten)
  | deferred {kind : CallKind} {arguments : List Segment} {spans : List (List Char)}
      (harguments : List.Forall₂ Covers arguments spans) (hnested : literalText? arguments = none) :
      Covers (.deferred kind arguments) (quoteCall kind spans.flatten)
  | condition {source : List Segment} {spans : List (List Char)}
      (hsource : List.Forall₂ Covers source spans) :
      Covers (.condition source) (conditionMark spans.flatten)

/-- The text that closes an extent. -/
def Extent.closing : Extent → List Char
  | .text => []
  | _ => [')', '}']

lemma Extent.closing_of_ne {extent : Extent} (h : extent ≠ .text) :
    extent.closing = [')', '}'] := by
  cases extent with
  | text => exact absurd rfl h
  | arguments | condition => rfl

lemma Extent.closing_of_step {extent extent' : Extent} {c : Char} {rest : List Char}
    (h : extent.step c rest = .stay extent') : extent'.closing = extent.closing := by
  cases extent with
  | text =>
    cases h
    rfl
  | arguments =>
    dsimp only [step] at h
    split at h
    · cases h
    · cases h
      rfl
  | condition depth =>
    dsimp only [step] at h
    split at h
    · cases h
      rfl
    · split at h
      · split at h
        · cases h
          rfl
        · cases h
        · cases h
      · cases h
        rfl

lemma covers_consChar {segments : List Segment} {spans : List (List Char)}
    (h : List.Forall₂ Covers segments spans) (c : Char) :
    ∃ spans', List.Forall₂ Covers (consChar c segments) spans' ∧
      spans'.flatten = c :: spans.flatten := by
  unfold consChar
  split
  · cases h with
    | cons hfirst hrest =>
      cases hfirst
      exact ⟨_, .cons (.literal _) hrest, rfl⟩
  · exact ⟨[c] :: spans, .cons (.literal [c]) h, rfl⟩

lemma covers_of_take? {inner rest : List Char} {segment : Segment}
    (h : Head.take? inner = some (.simple segment, rest)) :
    Covers segment (Head.simple segment).opening := by
  rcases Head.cases_of_take?_eq_simple h with rfl | ⟨r, rfl⟩
  · exact .anyLength
  · exact .reference r

lemma covers_of_closeCall? {kind : CallKind} {arguments : List Segment} {segment : Segment}
    {spans : List (List Char)} (hclose : closeCall? kind arguments = some segment)
    (h : List.Forall₂ Covers arguments spans) : Covers segment (quoteCall kind spans.flatten) := by
  rcases cases_of_closeCall? hclose with ⟨hnested, rfl⟩ | ⟨plain, c, hplain, hcall, rfl⟩
  · exact .deferred h hnested
  · exact .call h hplain hcall

lemma Reads.covers {extent : Extent} {s rest : List Char} {segments : List Segment}
    (h : Reads extent s segments rest) :
    ∃ spans, List.Forall₂ Covers segments spans ∧
      s = spans.flatten ++ (extent.closing ++ rest) := by
  induction h with
  | nil => exact ⟨[], .nil, rfl⟩
  | finish hextent rest =>
    refine ⟨[], .nil, ?_⟩
    rw [Extent.closing_of_ne hextent]
    rfl
  | escape h ih =>
    obtain ⟨spans, hspans, rfl⟩ := ih
    exact ⟨_, .cons .hash hspans, rfl⟩
  | plain hc hstep h ih =>
    rename_i c _ _ _
    obtain ⟨spans, hspans, rfl⟩ := ih
    obtain ⟨spans', hspans', hflat⟩ := covers_consChar hspans c
    refine ⟨spans', hspans', ?_⟩
    rw [hflat, Extent.closing_of_step hstep]
    rfl
  | unknown hhead h ih =>
    obtain ⟨spans, hspans, rfl⟩ := ih
    obtain ⟨spans', hspans', hflat'⟩ := covers_consChar hspans '{'
    obtain ⟨spans'', hspans'', hflat''⟩ := covers_consChar hspans' '#'
    refine ⟨spans'', hspans'', ?_⟩
    rw [hflat'', hflat']
    rfl
  | simple hhead h ih =>
    obtain ⟨spans, hspans, rfl⟩ := ih
    refine ⟨_, .cons (covers_of_take? hhead) hspans, ?_⟩
    rw [(Head.eq_opening_append hhead).1, List.flatten_cons, List.append_assoc]
  | condition hhead hsource h ihsource ih =>
    obtain ⟨spans, hspans, rfl⟩ := ih
    obtain ⟨inside, hinside, rfl⟩ := ihsource
    refine ⟨_, .cons (.condition hinside) hspans, ?_⟩
    rw [(Head.eq_opening_append hhead).1]
    simp [Head.opening, conditionMark, Extent.closing]
  | call hhead harguments hclose h iharguments ih =>
    obtain ⟨spans, hspans, rfl⟩ := ih
    obtain ⟨inside, hinside, rfl⟩ := iharguments
    refine ⟨_, .cons (covers_of_closeCall? hclose hinside) hspans, ?_⟩
    rw [(Head.eq_opening_append hhead).1]
    simp [Head.opening, quoteCall, Extent.closing]

/-- The whole text is read up to its end. -/
lemma Reads.eq_nil {s rest : List Char} {segments : List Segment}
    (h : Reads .text s segments rest) : rest = [] := by
  generalize hextent : Extent.text = extent at h
  induction h with
  | nil => rfl
  | finish hne => exact absurd hextent.symm hne
  | plain _ hstep _ ih =>
    subst hextent
    cases hstep
    exact ih rfl
  | escape _ ih | unknown _ _ ih | simple _ _ ih => exact ih hextent
  | condition _ _ _ _ ih | call _ _ _ _ _ ih => exact ih hextent

/-! ### Text in one piece -/

/-- No text is empty, and no two texts stand next to each other. -/
def Merged (segments : List Segment) : Prop :=
  .literal [] ∉ segments ∧
    segments.IsChain fun first second => ∀ s t, ¬ (first = .literal s ∧ second = .literal t)

/-- Text is merged at every depth. -/
def MergedAll (segments : List Segment) : Prop :=
  Merged segments ∧ ∀ segment, Occurs segment segments → Merged segment.inside

lemma merged_nil : Merged [] :=
  ⟨List.not_mem_nil, .nil⟩

lemma merged_cons_iff {segment : Segment} {segments : List Segment} :
    Merged (segment :: segments) ↔ segment ≠ .literal [] ∧
      (∀ s t, segment = .literal s → .literal t ∉ segments.head?) ∧ Merged segments := by
  rw [Merged, List.mem_cons, not_or, List.isChain_cons]
  constructor
  · rintro ⟨⟨hne, hmem⟩, hhead, hchain⟩
    exact ⟨Ne.symm hne, fun s t hs ht => hhead _ ht s t ⟨hs, rfl⟩, hmem, hchain⟩
  · rintro ⟨hne, hhead, hmem, hchain⟩
    refine ⟨⟨hne.symm, hmem⟩, ?_, hchain⟩
    rintro second hsecond s t ⟨hs, rfl⟩
    exact hhead s t hs hsecond

lemma Merged.cons {segment : Segment} {segments : List Segment}
    (hsegment : ∀ text, segment ≠ .literal text) (h : Merged segments) :
    Merged (segment :: segments) :=
  merged_cons_iff.2 ⟨hsegment [], fun s _ hs => absurd hs (hsegment s), h⟩

lemma Merged.consChar {segments : List Segment} (h : Merged segments) (c : Char) :
    Merged (consChar c segments) := by
  unfold Template.consChar
  split
  · obtain ⟨-, hhead, h⟩ := merged_cons_iff.1 h
    exact merged_cons_iff.2 ⟨by simp, fun _ t _ => hhead _ t rfl, h⟩
  · rename_i hliteral
    refine merged_cons_iff.2 ⟨by simp, fun _ t _ ht => ?_, h⟩
    obtain ⟨behind, rfl⟩ := List.head?_eq_some_iff.1 ht
    exact hliteral t behind rfl

lemma mergedAll_nil : MergedAll [] :=
  ⟨merged_nil, fun _ h => nomatch h⟩

lemma MergedAll.cons {segment : Segment} {segments : List Segment}
    (h : MergedAll segments) (hsegment : ∀ text, segment ≠ .literal text)
    (hinside : MergedAll segment.inside) : MergedAll (segment :: segments) := by
  refine ⟨h.1.cons hsegment, fun inner hinner => ?_⟩
  cases hinner with
  | here => exact hinside.1
  | behind _ hinner => exact h.2 inner hinner
  | inside _ hinner => exact hinside.2 inner hinner

lemma MergedAll.consChar {segments : List Segment} (h : MergedAll segments) (c : Char) :
    MergedAll (consChar c segments) := by
  refine ⟨h.1.consChar c, fun inner hinner => ?_⟩
  revert hinner
  unfold Template.consChar
  -- what is inside the first segment is left as it is, and there is nothing if it is text
  split
  · intro hinner
    cases hinner with
    | here => exact merged_nil
    | behind _ hinner => exact h.2 inner (.behind _ hinner)
    | inside _ hinner => cases hinner
  · intro hinner
    cases hinner with
    | here => exact merged_nil
    | behind _ hinner => exact h.2 inner hinner
    | inside _ hinner => cases hinner

lemma Reads.mergedAll {extent : Extent} {s rest : List Char} {segments : List Segment}
    (h : Reads extent s segments rest) : MergedAll segments := by
  induction h with
  | nil => exact mergedAll_nil
  | finish => exact mergedAll_nil
  | escape _ ih => exact ih.cons (fun _ => Segment.noConfusion) mergedAll_nil
  | plain _ _ _ ih => exact ih.consChar _
  | unknown _ _ ih => exact (ih.consChar '{').consChar '#'
  | simple hhead _ ih =>
    rcases Head.cases_of_take?_eq_simple hhead with rfl | ⟨r, rfl⟩
    · exact ih.cons (fun _ => Segment.noConfusion) mergedAll_nil
    · exact ih.cons (fun _ => Segment.noConfusion) mergedAll_nil
  | condition _ _ _ ihsource ih => exact ih.cons (fun _ => Segment.noConfusion) ihsource
  | call _ _ hclose _ iharguments ih =>
    rcases cases_of_closeCall? hclose with ⟨-, rfl⟩ | ⟨plain, c, -, -, rfl⟩
    · exact ih.cons (fun _ => Segment.noConfusion) iharguments
    · exact ih.cons (fun _ => Segment.noConfusion) mergedAll_nil

/-! ### Text as it stands -/

/-- A text in which nothing is escaped and no placeholder opens. -/
def Unmarked (text : List Char) : Prop :=
  ¬ ['\\', '#'] <:+: text ∧ ∀ head ∈ Head.all, ¬ head.opening <:+: text

lemma Unmarked.suffix {s text : List Char} (h : Unmarked text) (hs : s <:+ text) : Unmarked s :=
  ⟨fun hin => h.1 (hin.trans hs.isInfix),
    fun head hhead hin => h.2 head hhead (hin.trans hs.isInfix)⟩

lemma Unmarked.take?_eq_none {inner : List Char} (h : Unmarked ('#' :: '{' :: inner)) :
    Head.take? inner = none := by
  cases hhead : Head.take? inner with
  | none => rfl
  | some out =>
    obtain ⟨hopening, hmem⟩ := Head.eq_opening_append hhead
    rw [hopening] at h
    exact absurd (List.prefix_append ..).isInfix (h.2 out.1 hmem)

lemma read?_of_unmarked {text : List Char} (h : Unmarked text) :
    read? .text text = some (verbatim text, []) := by
  induction text using front_induction with
  | nil => rw [read?_nil, if_pos rfl, verbatim]
  | escape rest => exact absurd (List.prefix_append ['\\', '#'] rest).isInfix h.1
  | plain c rest hc ih =>
    rw [read?_plain _ hc]
    dsimp only [Extent.step]
    rw [ih rest (Nat.le_refl _) (h.suffix (List.suffix_cons c rest)), Option.map_some, inFront,
      consChar_verbatim]
  | opening inner ih =>
    have hinner := h.suffix (List.suffix_append ['#', '{'] inner)
    rw [read?_unknown _ h.take?_eq_none, ih inner (Nat.le_refl _) hinner, Option.map_some, inFront,
      consChar_verbatim, consChar_verbatim]

end CouchLoad.Template
