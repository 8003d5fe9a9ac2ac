import CouchLoad.Proofs.Template.Drafts
import CouchLoad.Proofs.Text.Cuts
import CouchLoad.Proofs.Text.Numeral
import Mathlib.Data.List.Infix

/-!
# References put in beforehand

Templates are specified in stages: references are replaced by their values first, and what comes out
is read. They are read in one pass instead, and calls whose arguments hold references are deferred.
Both come to the same text and make the same draws, unless a value is such that it changes how the
text around it is read.
-/

namespace CouchLoad

/-- The placeholder that a reference is written as. -/
def Reference.mark (r : Reference) : List Char :=
  '#' :: '{' :: r.name.toList ++ ['}']

/-- The reference that a text begins with. -/
def Reference.at? (s : List Char) : Option Reference :=
  [counter, dbPrefix, userPrefix].find? fun r => r.mark.isPrefixOf s

namespace Template

open Entropy

/-- Replace references from left to right, but not behind a backslash. The first characters are
dropped, as many as said. -/
def substituteFrom (ctx : Context) : Nat → List Char → List Char
  | _, [] => []
  | skipped + 1, _ :: rest => substituteFrom ctx skipped rest
  | 0, '\\' :: '#' :: rest => '\\' :: '#' :: substituteFrom ctx 0 rest
  | 0, c :: rest =>
    match Reference.at? (c :: rest) with
    | some r => ctx.text r ++ substituteFrom ctx (r.mark.length - 1) rest
    | none => c :: substituteFrom ctx 0 rest

/-- The text with every reference replaced by its value, where the hash sign is not escaped. -/
def substitute (ctx : Context) (text : List Char) : List Char :=
  substituteFrom ctx 0 text

/-- The characters that can open or close something. -/
def brackets : List Char := ['#', '\\', '(', ')', '{', '}']

/-- A value that can be put into any text. -/
def Harmless (value : List Char) : Prop :=
  value ≠ [] ∧ ∀ c ∈ value, c ∉ brackets

instance (value : List Char) : Decidable (Harmless value) :=
  @instDecidableAnd _ _ inferInstance (List.decidableBAll _ value)

/-- No reference stands right behind an opening, or behind what could be the beginning of a name
there. -/
def Separated (text : List Char) : Prop :=
  ∀ (name : List Char) (r : Reference), (∀ c ∈ name, isNamePart c) →
    ¬ '#' :: '{' :: name ++ r.mark <:+: text

variable {ctx : Context}

/-! ### References at the front -/

lemma eq_mark_append_of_at? {s : List Char} {r : Reference} (h : Reference.at? s = some r) :
    ∃ rest, s = r.mark ++ rest := by
  have hmark := List.find?_some h
  rw [List.isPrefixOf_iff_prefix] at hmark
  obtain ⟨rest, rfl⟩ := hmark
  exact ⟨rest, rfl⟩

lemma at?_mark_append (r : Reference) (rest : List Char) :
    Reference.at? (r.mark ++ rest) = some r := by
  cases r <;> rfl

/-- A reference begins with an opening. -/
lemma at?_cons {c : Char} {rest : List Char} (h : ¬ (c = '#' ∧ rest.head? = some '{')) :
    Reference.at? (c :: rest) = none := by
  cases hat : Reference.at? (c :: rest) with
  | none => rfl
  | some r =>
    obtain ⟨rest', heq⟩ := eq_mark_append_of_at? hat
    obtain ⟨rfl, rfl⟩ := List.cons.inj heq
    exact absurd ⟨rfl, rfl⟩ h

lemma at?_of_isPlain {c : Char} {rest : List Char} (h : IsPlain c rest) :
    Reference.at? (c :: rest) = none :=
  at?_cons fun hc => h.2 hc.1 hc.2

/-- A reference is read as the placeholder that it is. -/
lemma take?_reference (r : Reference) (rest : List Char) :
    Head.take? (r.name.toList ++ '}' :: rest) = some (.simple (.reference r), rest) := by
  cases r <;> rfl

/-! ### Replacing references -/

@[simp] lemma substitute_nil : substitute ctx [] = [] := rfl

@[simp] lemma substitute_escape (rest : List Char) :
    substitute ctx ('\\' :: '#' :: rest) = '\\' :: '#' :: substitute ctx rest := by
  rw [substitute, substituteFrom]
  rfl

lemma substituteFrom_length (skipped rest : List Char) :
    substituteFrom ctx skipped.length (skipped ++ rest) = substitute ctx rest := by
  induction skipped with
  | nil => rfl
  | cons c skipped ih =>
    rw [List.length_cons, List.cons_append, substituteFrom, ih]

lemma substitute_mark (r : Reference) (rest : List Char) :
    substitute ctx (r.mark ++ rest) = ctx.text r ++ substitute ctx rest := by
  have hmark : r.mark = '#' :: '{' :: (r.name.toList ++ ['}']) := rfl
  have hat : Reference.at? (r.mark ++ rest) = some r := at?_mark_append r rest
  have hlength : r.mark.length - 1 = ('{' :: (r.name.toList ++ ['}'])).length := by
    rw [hmark, List.length_cons, Nat.add_sub_cancel]
  rw [hmark, List.cons_append] at hat ⊢
  rw [substitute, substituteFrom, hat]
  · dsimp only
    rw [hlength, substituteFrom_length]
  · intro rest' h
    cases h

/-- Any other character stays. -/
lemma substitute_cons {c : Char} {rest : List Char} (hescape : c = '\\' → rest.head? ≠ some '#')
    (hat : Reference.at? (c :: rest) = none) :
    substitute ctx (c :: rest) = c :: substitute ctx rest := by
  rw [substitute, substituteFrom, hat]
  · rfl
  · rintro rest' rfl rfl
    exact hescape rfl rfl

lemma substitute_cons_of_ne {c : Char} (hescape : c ≠ '\\') (hhash : c ≠ '#') (rest : List Char) :
    substitute ctx (c :: rest) = c :: substitute ctx rest :=
  substitute_cons (fun h => absurd h hescape) (at?_cons fun h => hhash h.1)

lemma substitute_append {name : List Char} (h : ∀ c ∈ name, isNamePart c) (rest : List Char) :
    substitute ctx (name ++ rest) = name ++ substitute ctx rest := by
  induction name with
  | nil => rfl
  | cons c name ih =>
    have hc := h c List.mem_cons_self
    rw [List.cons_append, List.cons_append, substitute_cons_of_ne, ih]
    · exact fun c hc => h c (List.mem_cons_of_mem _ hc)
    · rintro rfl
      exact absurd hc (by decide)
    · rintro rfl
      exact absurd hc (by decide)

/-- Only a reference is replaced, so a text that begins with none begins as it did. -/
lemma head?_substitute {s : List Char} (h : Reference.at? s = none) :
    (substitute ctx s).head? = s.head? := by
  induction s using front_cases with
  | nil => rfl
  | escape rest => rw [substitute_escape]; rfl
  | opening inner =>
    rw [substitute_cons (fun hc => absurd hc (by decide)) h]
    rfl
  | plain c rest hc =>
    rw [substitute_cons hc.1 h]
    rfl

/-! ### Values -/

section Values

variable (hdb : Harmless ctx.dbPrefix.toList) (huser : Harmless ctx.userPrefix.toList)

/-- A numeral can be put into any text. -/
lemma harmless_decimal (n : Nat) : Harmless (Text.decimal n) := by
  refine ⟨Text.decimal_ne_nil n, ?_⟩
  intro c hc hbracket
  have hdigit := Text.isDigit_of_mem_decimal hc
  have hnone : brackets.all (fun c => !c.isDigit) = true := by decide
  have hnot := List.all_eq_true.1 hnone c hbracket
  rw [hdigit] at hnot
  cases hnot

include hdb huser

lemma harmless_text (r : Reference) : Harmless (ctx.text r) := by
  cases r with
  | counter => exact harmless_decimal ctx.counter
  | dbPrefix => exact hdb
  | userPrefix => exact huser

/-- No bracket comes to stand at the front when references are replaced. -/
lemma head?_of_substitute {s : List Char} {c : Char} (hc : c ∈ brackets)
    (h : (substitute ctx s).head? = some c) : s.head? = some c := by
  cases hat : Reference.at? s with
  | none => rwa [head?_substitute hat] at h
  | some r =>
    obtain ⟨rest, rfl⟩ := eq_mark_append_of_at? hat
    obtain ⟨hne, hvalue⟩ := harmless_text hdb huser r
    obtain ⟨first, value, hfirst⟩ := List.exists_cons_of_ne_nil hne
    rw [substitute_mark, hfirst, List.cons_append, List.head?_cons, Option.some.injEq] at h
    rw [hfirst] at hvalue
    exact absurd hc (hvalue c (h ▸ List.mem_cons_self))

lemma isPlain_substitute {c : Char} {rest : List Char} (h : IsPlain c rest) :
    IsPlain c (substitute ctx rest) := by
  constructor
  · intro hc hhead
    exact h.1 hc (head?_of_substitute hdb huser (by decide) hhead)
  · intro hc hhead
    exact h.2 hc (head?_of_substitute hdb huser (by decide) hhead)

/-- What a character of plain text does depends on whether a closing brace follows, and that is so
before and after. -/
lemma step_substitute (extent : Extent) (c : Char) (rest : List Char) :
    extent.step c (substitute ctx rest) =
      match extent.step c rest with
      | .finish rest => .finish (substitute ctx rest)
      | .stay extent => .stay extent
      | .unbalanced => .unbalanced := by
  by_cases hbrace : rest.head? = some '}'
  · obtain ⟨rest, rfl⟩ := List.head?_eq_some_iff.1 hbrace
    rw [substitute_cons_of_ne (by decide) (by decide)]
    unfold Extent.step
    cases extent with
    | text => rfl
    | arguments => split <;> grind
    | condition depth => cases depth <;> grind
  · have hbrace' : (substitute ctx rest).head? ≠ some '}' :=
      fun h => hbrace (head?_of_substitute hdb huser (by decide) h)
    unfold Extent.step
    cases extent with
    | text => rfl
    | arguments => grind
    | condition depth => cases depth <;> grind

end Values

/-! ### Separated texts -/

/-- The references in a text are looked for behind every opening. -/
lemma separated_iff {text : List Char} : Separated text ↔
    ∀ inner, '#' :: '{' :: inner <:+ text →
      Reference.at? (inner.dropWhile isNamePart) = none := by
  constructor
  · intro h inner hinner
    rw [Option.eq_none_iff_forall_ne_some]
    intro r hr
    obtain ⟨rest, hrest⟩ := eq_mark_append_of_at? hr
    have hname : ∀ c ∈ inner.takeWhile isNamePart, isNamePart c :=
      fun c hc => List.mem_takeWhile_imp hc
    have hsplit : inner.takeWhile isNamePart ++ (r.mark ++ rest) = inner := by
      rw [← hrest, List.takeWhile_append_dropWhile]
    have hfront : '#' :: '{' :: inner.takeWhile isNamePart ++ r.mark <+: '#' :: '{' :: inner :=
      ⟨rest, by simpa using hsplit⟩
    exact h _ r hname (hfront.isInfix.trans hinner.isInfix)
  · rintro h name r hname ⟨before, after, htext⟩
    have hinner : '#' :: '{' :: (name ++ (r.mark ++ after)) <:+ text :=
      ⟨before, by rw [← htext]; simp⟩
    have hdrop : (name ++ (r.mark ++ after)).dropWhile isNamePart = r.mark ++ after := by
      rw [List.dropWhile_append_of_pos hname]
      cases r <;> rfl
    have hat := h _ hinner
    rw [hdrop, at?_mark_append] at hat
    cases hat

/-- Whether a text is separated can be seen by looking at each of its tails. -/
instance (text : List Char) : Decidable (Separated text) :=
  decidable_of_iff (∀ t ∈ text.tails, ['#', '{'] <+: t →
      Reference.at? ((t.drop 2).dropWhile isNamePart) = none) <| by
    rw [separated_iff]
    constructor
    · intro h inner hinner
      exact h _ ((List.mem_tails ..).2 hinner) ⟨inner, rfl⟩
    · rintro h t ht ⟨inner, rfl⟩
      exact h inner ((List.mem_tails ..).1 ht)

lemma Separated.suffix {s t : List Char} (h : Separated t) (hs : s <:+ t) : Separated s :=
  fun name r hname hmark => h name r hname (hmark.trans hs.isInfix)

/-! ### Heads -/

/-- Only what stands behind its name decides what a placeholder is. -/
lemma take?_append {name tail : List Char} (hname : ∀ c ∈ name, isNamePart c)
    (htail : ∀ c ∈ tail.head?, isNamePart c = false) :
    Head.take? (name ++ tail) = Head.ofName? name tail := by
  obtain ⟨htake, hdrop⟩ := Text.span_append hname htail
  rw [Head.take?_eq_ofName?, htake, hdrop]

/-- A head is the same after the references behind it have been replaced. -/
lemma take?_substitute {inner : List Char}
    (h : Reference.at? (inner.dropWhile isNamePart) = none) :
    Head.take? (substitute ctx inner) =
      (Head.take? inner).map fun out => (out.1, substitute ctx out.2) := by
  have hname : ∀ c ∈ inner.takeWhile isNamePart, isNamePart c :=
    fun c hc => List.mem_takeWhile_imp hc
  have htail : ∀ c ∈ (inner.dropWhile isNamePart).head?, isNamePart c = false := by
    intro c hc
    have hnot := List.head?_dropWhile_not isNamePart inner
    rw [Option.mem_def.1 hc] at hnot
    exact hnot
  rw [← List.takeWhile_append_dropWhile (p := isNamePart) (l := inner),
    substitute_append hname]
  generalize inner.takeWhile isNamePart = name at hname
  generalize inner.dropWhile isNamePart = tail at h htail
  have htail' : ∀ c ∈ (substitute ctx tail).head?, isNamePart c = false := by
    rwa [head?_substitute h]
  rw [take?_append hname htail, take?_append hname htail']
  cases tail with
  | nil => rfl
  | cons c rest =>
    by_cases hbrace : c = '}'
    · subst hbrace
      rw [substitute_cons_of_ne (by decide) (by decide)]
      dsimp only [Head.ofName?]
      cases Head.simple? name <;> rfl
    · by_cases hparen : c = '('
      · subst hparen
        rw [substitute_cons_of_ne (by decide) (by decide)]
        simp only [Head.ofName?]
        split_ifs
        · rfl
        · cases CallKind.ofName? name <;> rfl
      · have hhead : (substitute ctx (c :: rest)).head? = some c := head?_substitute h
        obtain ⟨rest', hrest⟩ := List.head?_eq_some_iff.1 hhead
        rw [hrest]
        simp [Head.ofName?, hbrace, hparen]

/-! ### Reading values -/

/-- The characters of a value are plain text. -/
lemma read?_value {value : List Char} (h : ∀ c ∈ value, c ∉ brackets) (extent : Extent)
    (rest : List Char) :
    read? extent (value ++ rest) = (read? extent rest).map (inFront (value.foldr consChar)) := by
  induction value with
  | nil =>
    rw [List.nil_append]
    cases read? extent rest <;> rfl
  | cons c value ih =>
    have hc : c ∉ brackets := h c List.mem_cons_self
    have hplain : IsPlain c (value ++ rest) :=
      isPlain_of_ne (by rintro rfl; exact hc (by decide)) (by rintro rfl; exact hc (by decide)) _
    have hstep : extent.step c (value ++ rest) = .stay extent := by
      unfold Extent.step
      simp only [brackets, List.mem_cons] at hc
      cases extent <;> grind
    rw [List.cons_append, read?_plain extent hplain, hstep]
    simp only
    rw [ih fun c hc => h c (List.mem_cons_of_mem _ hc), Option.map_map]
    rfl

/-- Characters in front of segments are characters in front of their text. -/
lemma draftAll_value (value : List Char) (segments : List Segment) :
    draftAll ctx (value.foldr consChar segments) = (value ++ ·) <$> draftAll ctx segments := by
  induction value with
  | nil => simp
  | cons c value ih => simp [draftAll_consChar, ih]

/-! ### Reading in lock step -/

/-- Nothing can come of what has been read. -/
def Hopeless (ctx : Context) (read : Option (List Segment × List Char)) : Prop :=
  ∀ out ∈ read, draftAll ctx out.1 = failure

/-- What has been read of two texts comes to the same, and what is left of the second is what is
left of the first, with its references replaced. -/
inductive InStep (ctx : Context) : Option (List Segment × List Char) →
    Option (List Segment × List Char) → Prop where
  | hopeless {read read' : Option (List Segment × List Char)} (h : Hopeless ctx read)
      (h' : Hopeless ctx read') : InStep ctx read read'
  | both {segments segments' : List Segment} (rest : List Char)
      (h : draftAll ctx segments' = draftAll ctx segments) :
      InStep ctx (some (segments, rest)) (some (segments', substitute ctx rest))

namespace InStep

variable {read read' : Option (List Segment × List Char)}

/-- Two readings stay in step when the same is put in front of both. -/
lemma map {f f' : List Segment → List Segment} (put : Draft (List Char) → Draft (List Char))
    (hput : put failure = failure)
    (hf : ∀ segments, draftAll ctx (f segments) = put (draftAll ctx segments))
    (hf' : ∀ segments, draftAll ctx (f' segments) = put (draftAll ctx segments))
    (h : InStep ctx read read') :
    InStep ctx (read.map (inFront f)) (read'.map (inFront f')) := by
  cases h with
  | hopeless h h' =>
    apply hopeless
    · intro out hout
      obtain ⟨out, hread, rfl⟩ := Option.map_eq_some_iff.1 hout
      rw [inFront, hf, h out hread, hput]
    · intro out hout
      obtain ⟨out, hread, rfl⟩ := Option.map_eq_some_iff.1 hout
      rw [inFront, hf', h' out hread, hput]
  | both rest h =>
    apply both
    rw [hf, hf', h]

/-- A placeholder that comes to the same may stand in front of both. -/
lemma cons {segment segment' : Segment} (hsame : segment'.draft ctx = segment.draft ctx)
    (h : InStep ctx read read') :
    InStep ctx (read.map (inFront (segment :: ·))) (read'.map (inFront (segment' :: ·))) := by
  apply map (fun draft => segment.draft ctx >>= fun text => (text ++ ·) <$> draft)
  · exact bind_failure _
  · intro segments
    simp
  · intro segments
    simp [hsame]
  · exact h

end InStep

section Placeholders

variable {read read' : Option (List Segment × List Char)}
  {behind : List Char → Option (List Segment × List Char)} {close : List Segment → Option Segment}
  (made : Draft (List Char) → Draft (List Char))

/-- A placeholder that comes to nothing spoils whatever stands behind it. -/
lemma hopeless_bind (hclose : ∀ segments segment, close segments = some segment →
      segment.draft ctx = made (draftAll ctx segments))
    (hread : ∀ out ∈ read, made (draftAll ctx out.1) = failure) :
    Hopeless ctx (read.bind fun out => (close out.1).bind fun segment =>
      (behind out.2).map (inFront (segment :: ·))) := by
  intro out hout
  obtain ⟨inside, hinside, hout⟩ := Option.bind_eq_some_iff.1 hout
  obtain ⟨segment, hsegment, hout⟩ := Option.bind_eq_some_iff.1 hout
  obtain ⟨rest, -, rfl⟩ := Option.map_eq_some_iff.1 hout
  rw [inFront, draftAll_cons, hclose _ _ hsegment, hread inside hinside, failure_bind]

/-- Two readings stay in step behind a placeholder, whose segment is made of what has been read
inside it or refused for it. -/
lemma InStep.bind (hmade : made failure = failure)
    (hclose : ∀ segments segment, close segments = some segment →
      segment.draft ctx = made (draftAll ctx segments))
    (hrefuse : ∀ segments, close segments = none → made (draftAll ctx segments) = failure)
    (h : InStep ctx read read')
    (hbehind : ∀ out ∈ read, InStep ctx (behind out.2) (behind (substitute ctx out.2))) :
    InStep ctx
      (read.bind fun out => (close out.1).bind fun segment =>
        (behind out.2).map (inFront (segment :: ·)))
      (read'.bind fun out => (close out.1).bind fun segment =>
        (behind out.2).map (inFront (segment :: ·))) := by
  cases h with
  | hopeless h h' =>
    apply hopeless
    · apply hopeless_bind made hclose
      intro out hout
      rw [h out hout, hmade]
    · apply hopeless_bind made hclose
      intro out hout
      rw [h' out hout, hmade]
  | @both segments segments' rest h =>
    by_cases hfail : made (draftAll ctx segments) = failure
    · apply hopeless
      · apply hopeless_bind made hclose
        intro out hout
        obtain rfl := Option.mem_some_iff.1 hout
        exact hfail
      · apply hopeless_bind made hclose
        intro out hout
        obtain rfl := Option.mem_some_iff.1 hout
        rwa [h]
    · obtain ⟨segment, hsegment⟩ := Option.ne_none_iff_exists'.1 (mt (hrefuse segments) hfail)
      obtain ⟨segment', hsegment'⟩ :=
        Option.ne_none_iff_exists'.1 (mt (hrefuse segments') (h ▸ hfail))
      have hsame : segment'.draft ctx = segment.draft ctx := by
        rw [hclose _ _ hsegment, hclose _ _ hsegment', h]
      simp only [Option.bind_some, hsegment, hsegment']
      exact cons hsame (hbehind _ rfl)

end Placeholders

/-- A text and the text with its references replaced are read in step, up to whatever end. -/
def Lockstep (ctx : Context) (s : List Char) : Prop :=
  ∀ extent, InStep ctx (read? extent s) (read? extent (substitute ctx s))

namespace Lockstep

lemma nil : Lockstep ctx [] := by
  intro extent
  rw [substitute_nil, read?_nil]
  split_ifs
  · exact .both [] rfl
  · exact .hopeless (by simp [Hopeless]) (by simp [Hopeless])

lemma escape {rest : List Char} (h : Lockstep ctx rest) : Lockstep ctx ('\\' :: '#' :: rest) := by
  intro extent
  rw [substitute_escape, read?_escape, read?_escape]
  exact (h extent).cons rfl

/-- An opening that is no reference is an opening in both texts, with the same head behind it. -/
lemma opening {inner : List Char} (hat : Reference.at? ('#' :: '{' :: inner) = none)
    (hname : Reference.at? (inner.dropWhile isNamePart) = none)
    (h : ∀ t, t <:+ inner → Lockstep ctx t) : Lockstep ctx ('#' :: '{' :: inner) := by
  intro extent
  have hopening : substitute ctx ('#' :: '{' :: inner) = '#' :: '{' :: substitute ctx inner := by
    rw [substitute_cons (fun h => absurd h (by decide)) hat,
      substitute_cons_of_ne (by decide) (by decide)]
  have hhead : Head.take? (substitute ctx inner) =
      (Head.take? inner).map fun out => (out.1, substitute ctx out.2) := take?_substitute hname
  rw [hopening]
  cases htake : Head.take? inner with
  | none =>
    rw [htake] at hhead
    rw [read?_unknown extent htake, read?_unknown extent hhead]
    apply InStep.map (('#' :: '{' :: ·) <$> ·) rfl _ _ (h inner List.suffix_rfl extent)
    · intro segments
      simp [draftAll_consChar]
    · intro segments
      simp [draftAll_consChar]
  | some out =>
    obtain ⟨head, rest⟩ := out
    rw [htake] at hhead
    have hrest := (Head.suffix_of_take? htake).1
    -- what stands behind the placeholder is a tail of what stands inside it
    have hbehind : ∀ extent', ∀ out ∈ read? extent' rest,
        InStep ctx (read? extent out.2) (read? extent (substitute ctx out.2)) :=
      fun extent' out hout => h out.2 ((suffix_of_read? extent' hout).trans hrest) extent
    cases head with
    | simple segment =>
      rw [read?_simple extent htake, read?_simple extent hhead]
      exact (h rest hrest extent).cons rfl
    | condition =>
      have hclose : ∀ source segment, some (Segment.condition source) = some segment →
          segment.draft ctx = conditionMark <$> draftAll ctx source := by
        rintro source _ ⟨⟩
        exact draft_condition source
      rw [read?_condition extent htake, read?_condition extent hhead]
      exact InStep.bind (conditionMark <$> ·) rfl hclose (fun _ h => nomatch h)
        (h rest hrest (.condition 0)) (hbehind (.condition 0))
    | call kind =>
      rw [read?_call extent htake, read?_call extent hhead]
      exact InStep.bind (· >>= kind.draft) (failure_bind kind.draft)
        (fun _ _ => draft_of_closeCall?) (fun _ => draft_of_closeCall?_eq_none)
        (h rest hrest .arguments) (hbehind .arguments)

section Values

variable (hdb : Harmless ctx.dbPrefix.toList) (huser : Harmless ctx.userPrefix.toList)

include hdb huser

/-- A reference is a segment in the one text and plain characters in the other. -/
lemma mark (r : Reference) {rest : List Char} (h : Lockstep ctx rest) :
    Lockstep ctx (r.mark ++ rest) := by
  intro extent
  have hmark : r.mark ++ rest = '#' :: '{' :: (r.name.toList ++ '}' :: rest) := by
    simp [Reference.mark]
  rw [substitute_mark, hmark, read?_simple extent (take?_reference r rest),
    read?_value (harmless_text hdb huser r).2]
  apply InStep.map ((ctx.text r ++ ·) <$> ·) rfl _ (draftAll_value _) (h extent)
  intro segments
  simp

/-- A plain character does the same in both texts. -/
lemma plain {c : Char} {rest : List Char} (hc : IsPlain c rest) (h : Lockstep ctx rest) :
    Lockstep ctx (c :: rest) := by
  intro extent
  rw [substitute_cons hc.1 (at?_of_isPlain hc), read?_plain extent hc,
    read?_plain extent (isPlain_substitute hdb huser hc), step_substitute hdb huser]
  cases extent.step c rest with
  | finish rest => exact .both rest rfl
  | unbalanced => exact .hopeless (by simp [Hopeless]) (by simp [Hopeless])
  | stay extent =>
    exact (h extent).map ((c :: ·) <$> ·) rfl (draftAll_consChar c) (draftAll_consChar c)

/-- Every separated text is read in step with the text that has its references replaced. -/
lemma of_separated {s : List Char} (hs : Separated s) : Lockstep ctx s := by
  induction s using front_induction with
  | nil => exact nil
  | escape rest ih => exact escape (ih rest (Nat.le_refl _) (hs.suffix ⟨['\\', '#'], rfl⟩))
  | plain c rest hc ih =>
    exact plain hdb huser hc (ih rest (Nat.le_refl _) (hs.suffix (List.suffix_cons c rest)))
  | opening inner ih =>
    have htail : ∀ t, t <:+ inner → Lockstep ctx t :=
      fun t ht => ih t ht.length_le (hs.suffix (ht.trans ⟨['#', '{'], rfl⟩))
    cases hat : Reference.at? ('#' :: '{' :: inner) with
    | none => exact opening hat (separated_iff.1 hs inner List.suffix_rfl) htail
    | some r =>
      obtain ⟨rest, hrest⟩ := eq_mark_append_of_at? hat
      have hsuffix : rest <:+ inner := by
        refine ⟨r.name.toList ++ ['}'], ?_⟩
        simpa [Reference.mark] using hrest.symm
      rw [hrest]
      exact mark hdb huser r (htail rest hsuffix)

end Values

end Lockstep

/-- Whether the references of a text are replaced beforehand or while it is resolved makes no
difference: the same text comes out and the same words are drawn, or both fail. -/
theorem expand_substitute {text : List Char} (hdb : Harmless ctx.dbPrefix.toList)
    (huser : Harmless ctx.userPrefix.toList) (htext : Separated text) (s : Source) :
    expand ctx (substitute ctx text) s = expand ctx text s := by
  have hnone : ∀ read, Hopeless ctx read →
      ((read.map Prod.fst).bind fun segments => draftAll ctx segments s) = none := by
    intro read hread
    cases read with
    | none => rfl
    | some out => exact congrFun (hread out rfl) s
  have hstep := Lockstep.of_separated hdb huser htext .text
  unfold expand
  rw [toOption_tokenize, toOption_tokenize]
  generalize read? .text text = read at hstep
  generalize read? .text (substitute ctx text) = read' at hstep
  cases hstep with
  | hopeless h h' => rw [hnone read h, hnone read' h']
  | both rest h => exact congrFun h s

/-- An instance, in which a call is deferred for the sake of a reference and an escaped reference
stays one. -/
theorem expand_substitute_bounds :
    let ctx : Context := ⟨7, "db", "user"⟩
    let text := "#\x7brandom_int(1,#\x7bdoc_id_counter\x7d)\x7d\\#\x7bdb_prefix\x7d".toList
    (Harmless ctx.dbPrefix.toList ∧ Harmless ctx.userPrefix.toList ∧ Separated text) ∧
      substitute ctx text = "#\x7brandom_int(1,7)\x7d\\#\x7bdb_prefix\x7d".toList ∧
      (expand ctx text (Source.ofWords #[5])).map Prod.fst = some "1#\x7bdb_prefix\x7d".toList ∧
      expand ctx (substitute ctx text) (Source.ofWords #[5]) =
        expand ctx text (Source.ofWords #[5]) := by
  intro ctx text
  have hdb : Harmless ctx.dbPrefix.toList := by decide
  have huser : Harmless ctx.userPrefix.toList := by decide
  have htext : Separated text := by decide
  refine ⟨⟨hdb, huser, htext⟩, by decide, by decide +kernel, ?_⟩
  exact expand_substitute hdb huser htext _

end Template

end CouchLoad
