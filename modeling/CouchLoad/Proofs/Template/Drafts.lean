import CouchLoad.Proofs.Template.Reading
import CouchLoad.Template.Resolve

/-!
# What segments come to

The text that segments come to, drawn from a source, or nothing if a call turns out to be
malformed. Texts that stand behind each other are drawn one after the other, so the laws of a monad
are what can be said about them.
-/

namespace CouchLoad.Template

open Entropy

/-- A text that is drawn from a source, if there is no fault. -/
abbrev Draft := StateT Source Option

/-- The outcome of a resolution, without its fault. -/
def Draft.ofOutcome (out : Except Error (List Char) × Source) : Option (List Char × Source) :=
  match out with
  | (.ok text, s) => some (text, s)
  | (.error _, _) => none

/-- The text of a segment. -/
def Segment.draft (ctx : Context) (segment : Segment) : Draft (List Char) :=
  fun s => Draft.ofOutcome (segment.resolve ctx s)

/-- The text of a list of segments. -/
def draftAll (ctx : Context) (segments : List Segment) : Draft (List Char) :=
  fun s => Draft.ofOutcome (resolveAll ctx segments s)

/-- The text of a call. -/
def Call.draft (c : Call) : Draft (List Char) :=
  fun s => some (c.resolve s)

/-- The text of a call whose arguments are known to be some text. -/
def CallKind.draft (kind : CallKind) (arguments : List Char) : Draft (List Char) :=
  match Call.ofArguments kind arguments with
  | .ok c => c.draft
  | .error _ => failure

/-- Read a text and resolve what has been read. Nothing comes out of it if either fails. -/
def expand (ctx : Context) (text : List Char) : Draft (List Char) :=
  fun s => (tokenize text).toOption.bind fun segments => draftAll ctx segments s

variable {ctx : Context}

/-- A text is drawn from what the text before it has left. -/
lemma bind_eq_some_iff {α β : Type} {x : Draft α} {f : α → Draft β} {s u : Source} {b : β} :
    (x >>= f) s = some (b, u) ↔ ∃ a t, x s = some (a, t) ∧ f a t = some (b, u) := by
  show (x s).bind (fun out => f out.1 out.2) = some (b, u) ↔ _
  rw [Option.bind_eq_some_iff, Prod.exists]

lemma draftAll_eq_some_iff {segments : List Segment} {s t : Source} {text : List Char} :
    draftAll ctx segments s = some (text, t) ↔ resolveAll ctx segments s = (.ok text, t) := by
  unfold draftAll
  rcases resolveAll ctx segments s with ⟨_ | text', t'⟩
  · simp [Draft.ofOutcome]
  · simp [Draft.ofOutcome]

lemma failure_bind {α β : Type} (f : α → Draft β) : (failure : Draft α) >>= f = failure := rfl

lemma bind_failure {α β : Type} (x : Draft α) : (x >>= fun _ => (failure : Draft β)) = failure := by
  funext s
  show (x s).bind (fun _ => none) = none
  cases x s <;> rfl

/-! ### Segments -/

section Segments

-- As for `scan`, the equations of both functions are made before the proofs need them.
attribute [local simp] Segment.resolve resolveAll

@[simp] lemma draftAll_nil : draftAll ctx [] = pure [] := by
  funext s
  rw [draftAll, resolveAll]
  rfl

@[simp] lemma draftAll_cons (segment : Segment) (segments : List Segment) :
    draftAll ctx (segment :: segments) = do
      let text ← segment.draft ctx
      let rest ← draftAll ctx segments
      return text ++ rest := by
  funext s
  rw [draftAll, resolveAll]
  simp only [bind, StateT.bind, Segment.draft]
  cases segment.resolve ctx s with
  | mk made t =>
    cases made with
    | error e => rfl
    | ok text =>
      simp only [Draft.ofOutcome, Option.bind_some, draftAll]
      cases resolveAll ctx segments t with
      | mk made u => cases made <;> rfl

@[simp] lemma draft_literal (text : List Char) : (Segment.literal text).draft ctx = pure text := by
  funext s
  rw [Segment.draft, Segment.resolve]
  rfl

@[simp] lemma draft_hash : Segment.hash.draft ctx = pure ['#'] := by
  funext s
  rw [Segment.draft, Segment.resolve]
  rfl

@[simp] lemma draft_reference (r : Reference) :
    (Segment.reference r).draft ctx = pure (ctx.text r) := by
  funext s
  rw [Segment.draft, Segment.resolve]
  rfl

@[simp] lemma draft_call (c : Call) : (Segment.call c).draft ctx = c.draft := by
  funext s
  rw [Segment.draft, Segment.resolve]
  rfl

@[simp] lemma draft_condition (source : List Segment) :
    (Segment.condition source).draft ctx = conditionMark <$> draftAll ctx source := by
  funext s
  rw [Segment.draft, Segment.resolve]
  simp only [Functor.map, StateT.map, draftAll]
  cases resolveAll ctx source s with
  | mk made t => cases made <;> rfl

@[simp] lemma draft_deferred (kind : CallKind) (arguments : List Segment) :
    (Segment.deferred kind arguments).draft ctx = draftAll ctx arguments >>= kind.draft := by
  funext s
  rw [Segment.draft, Segment.resolve]
  simp only [bind, StateT.bind, draftAll]
  cases resolveAll ctx arguments s with
  | mk made t =>
    cases made with
    | error e => rfl
    | ok text =>
      simp only [Draft.ofOutcome, Option.bind_some, CallKind.draft]
      cases Call.ofArguments kind text <;> rfl

end Segments

/-! ### Lists of segments -/

lemma draftAll_append (front behind : List Segment) :
    draftAll ctx (front ++ behind) = do
      let text ← draftAll ctx front
      let rest ← draftAll ctx behind
      return text ++ rest := by
  induction front with
  | nil => simp
  | cons segment front ih =>
    rw [List.cons_append, draftAll_cons, ih, draftAll_cons]
    simp only [bind_assoc, pure_bind, List.append_assoc]

/-- A character in front of segments is a character in front of their text. -/
lemma draftAll_consChar (c : Char) (segments : List Segment) :
    draftAll ctx (consChar c segments) = (c :: ·) <$> draftAll ctx segments := by
  unfold consChar
  split <;> simp

/-- Segments that hold no placeholder stand for their own text. -/
lemma draftAll_of_literalText? {segments : List Segment} {text : List Char}
    (h : literalText? segments = some text) : draftAll ctx segments = pure text := by
  induction segments generalizing text with
  | nil =>
    cases h
    simp
  | cons segment segments ih =>
    cases segment with
    | literal first =>
      obtain ⟨rest, hrest, rfl⟩ := Option.map_eq_some_iff.1 h
      simp [ih hrest]
    | hash =>
      obtain ⟨rest, hrest, rfl⟩ := Option.map_eq_some_iff.1 h
      simp [ih hrest]
    | _ => cases h

/-! ### Calls -/

section Calls

variable {kind : CallKind} {arguments : List Segment}

lemma draft_of_ofArguments {text : List Char} {c : Call} (h : Call.ofArguments kind text = .ok c) :
    kind.draft text = c.draft := by
  rw [CallKind.draft, h]

lemma draft_of_ofArguments_eq_error {text : List Char} {fault : CallFault}
    (h : Call.ofArguments kind text = .error fault) : kind.draft text = failure := by
  rw [CallKind.draft, h]

/-- Whether a call is deferred or not makes no difference for its text. -/
lemma draft_of_closeCall? {segment : Segment} (h : closeCall? kind arguments = some segment) :
    segment.draft ctx = draftAll ctx arguments >>= kind.draft := by
  rcases cases_of_closeCall? h with ⟨-, rfl⟩ | ⟨text, c, htext, hcall, rfl⟩
  · exact draft_deferred kind arguments
  · rw [draftAll_of_literalText? htext, pure_bind, draft_call, draft_of_ofArguments hcall]

/-- A call that is refused could not have been resolved later either. -/
lemma draft_of_closeCall?_eq_none (h : closeCall? kind arguments = none) :
    draftAll ctx arguments >>= kind.draft = failure := by
  obtain ⟨text, fault, htext, hcall⟩ := refused_of_closeCall? h
  rw [draftAll_of_literalText? htext, pure_bind]
  exact draft_of_ofArguments_eq_error hcall

end Calls

end CouchLoad.Template
