import CouchLoad.Proofs.Template.Drafts

/-!
# Escaping as quotation

With a backslash in front of each of its hash signs, every text can be written in a template: it is
resolved to itself, whatever it looks like, and no draw is made for it.
-/

namespace CouchLoad.Template

open Entropy

/-- A text with a backslash in front of every hash sign. -/
def escape (s : List Char) : List Char :=
  s.flatMap fun c => if c = '#' then ['\\', '#'] else [c]

@[simp] lemma escape_nil : escape [] = [] := rfl

@[simp] lemma escape_hash (s : List Char) : escape ('#' :: s) = '\\' :: '#' :: escape s := rfl

lemma escape_cons {c : Char} (h : c ≠ '#') (s : List Char) : escape (c :: s) = c :: escape s := by
  simp [escape, h]

/-- No escaped text begins with a hash sign, and so a backslash in front of it escapes none. -/
lemma head?_escape (s : List Char) : (escape s).head? ≠ some '#' := by
  cases s with
  | nil => simp
  | cons c s =>
    by_cases hc : c = '#'
    · subst hc
      simp
    · simpa [escape_cons hc] using hc

lemma literalText?_consChar (c : Char) (segments : List Segment) :
    literalText? (consChar c segments) = (literalText? segments).map (c :: ·) := by
  unfold consChar
  split
  · simp only [literalText?, Option.map_map]
    rfl
  · simp only [literalText?]
    rfl

/-- The segments of an escaped text hold no placeholder, and their text is the text itself. -/
lemma read?_escaped (s : List Char) :
    ∃ segments, read? .text (escape s) = some (segments, []) ∧ literalText? segments = some s := by
  induction s with
  | nil => exact ⟨[], by rw [escape_nil, read?_nil, if_pos rfl], rfl⟩
  | cons c s ih =>
    obtain ⟨segments, hread, htext⟩ := ih
    by_cases hc : c = '#'
    · subst hc
      refine ⟨.hash :: segments, ?_, ?_⟩
      · rw [escape_hash, read?_escape, hread]
        rfl
      · rw [literalText?, htext]
        rfl
    · have hplain : IsPlain c (escape s) :=
        ⟨fun _ => head?_escape s, fun h => absurd h hc⟩
      refine ⟨consChar c segments, ?_, ?_⟩
      · rw [escape_cons hc, read?_plain _ hplain]
        dsimp only [Extent.step]
        rw [hread]
        rfl
      · rw [literalText?_consChar, htext]
        rfl

/-- Every text that is escaped is read, holds no placeholder then, and is resolved to itself without
a draw. -/
theorem resolveAll_escape (s : List Char) (ctx : Context) (source : Source) :
    ∃ segments, tokenize (escape s) = .ok segments ∧ literalText? segments = some s ∧
      resolveAll ctx segments source = (.ok s, source) := by
  obtain ⟨segments, hread, htext⟩ := read?_escaped s
  have htokenize : tokenize (escape s) = .ok segments := by
    rw [tokenize_eq_ok_iff, hread]
    rfl
  refine ⟨segments, htokenize, htext, draftAll_eq_some_iff.1 ?_⟩
  rw [draftAll_of_literalText? htext]
  rfl

/-- A backslash in front of a hash sign and a placeholder are text once they are escaped. -/
example : tokenize (escape "\\#\x7bdb_prefix\x7d".toList) =
    .ok [.literal ['\\'], .hash, .literal "\x7bdb_prefix\x7d".toList] := by rfl

end CouchLoad.Template
