import CouchLoad.Proofs.Entropy.Draws
import CouchLoad.Proofs.Template.Drafts
import CouchLoad.Proofs.Text.Numeral

/-!
# The texts that templates denote

Every segment denotes a set of texts, and what it is resolved to is one of them. A resolution fails
only at a call whose arguments had to be resolved first and turned out to be malformed.
-/

namespace CouchLoad.Template

open Entropy

/-! ### Calls -/

/-- The texts that a call may come to. -/
def Call.Gives : Call → List Char → Prop
  | .randomInt low high, text => ∃ n : Int, low ≤ n ∧ n ≤ high ∧ text = (toString n).toList
  | .randomString (some length), text => text.length = length ∧ ∀ c ∈ text, c.isAlphanum
  | .randomString none, text =>
    10 ≤ text.length ∧ text.length ≤ 999 ∧ ∀ c ∈ text, c.isAlphanum
  | .pick options, text => text ∈ options
  | .file path, text => text = fileMark path

/-- What is known of every call that has been read. -/
def Call.Sound : Call → Prop
  | .randomInt low high => low ≤ high ∧ -2 ^ 63 ≤ low ∧ high < 2 ^ 63
  | .pick options => options ≠ []
  | _ => True

/-- A bound is a number of 64 bits. -/
lemma range_of_parseBound {text : List Char} {n : Int} (h : parseBound text = .ok n) :
    -2 ^ 63 ≤ n ∧ n < 2 ^ 63 := by
  unfold parseBound Text.parseSigned? at h
  dsimp only at h
  split at h
  · rename_i m hm
    cases h
    have hrange := (Option.filter_eq_some_iff.1 hm).2
    simpa using hrange
  · cases h

lemma sound_of_ofArguments {kind : CallKind} {arguments : List Char} {c : Call}
    (h : Call.ofArguments kind arguments = .ok c) : c.Sound := by
  unfold Call.ofArguments at h
  cases kind with
  | randomInt =>
    dsimp only at h
    split at h
    · rename_i first second _
      cases hlow : parseBound first with
      | error fault =>
        rw [hlow] at h
        cases h
      | ok low =>
        cases hhigh : parseBound second with
        | error fault =>
          rw [hlow, hhigh] at h
          cases h
        | ok high =>
          rw [hlow, hhigh] at h
          by_cases horder : low > high
          · simp [horder, bind, Except.bind] at h
          · simp [horder, bind, Except.bind, pure, Except.pure] at h
            subst h
            exact ⟨not_lt.1 horder, (range_of_parseBound hlow).1, (range_of_parseBound hhigh).2⟩
    · cases h
  | randomString =>
    dsimp only at h
    split at h
    · cases h
      trivial
    · cases h
  | pick =>
    cases h
    simp [Call.Sound, Text.splitAtEach_ne_nil]
  | file =>
    dsimp only at h
    split at h
    · cases h
    · cases h
      trivial

/-- A call comes to one of its texts. -/
lemma gives_resolve {c : Call} (h : c.Sound) (s : Source) : c.Gives (c.resolve s).1 := by
  cases c with
  | randomInt low high =>
    obtain ⟨horder, hlow, hhigh⟩ := h
    obtain ⟨hge, hle⟩ := integer_mem horder hlow hhigh s
    exact ⟨_, hge, hle, Text.decimalInt_eq_toString _⟩
  | randomString length =>
    cases length with
    | none =>
      obtain ⟨hge, hle⟩ := textLength_mem s
      have hlength : (letters (textLength s).1 (textLength s).2).1.length = (textLength s).1 :=
        length_letters _ _
      refine ⟨?_, ?_, fun c hc => isAlphanum_of_mem_letters hc⟩
      · exact hge.trans_eq hlength.symm
      · exact hlength.trans_le hle
    | some length =>
      exact ⟨length_letters length s, fun c hc => isAlphanum_of_mem_letters hc⟩
  | pick options =>
    obtain ⟨option, hmem, hpick⟩ := pick_mem h s
    have htext : ((Call.pick options).resolve s).1 = option := by
      simp [Call.resolve, hpick]
    rw [htext]
    exact hmem
  | file path => rfl

lemma reaches_resolve (c : Call) (s : Source) : s.Reaches (c.resolve s).2 := by
  cases c with
  | randomInt low high => exact reaches_integer low high s
  | randomString length =>
    cases length with
    | none => exact (reaches_textLength s).trans (reaches_letters _ _)
    | some length => exact reaches_letters length s
  | pick options => exact reaches_pick options s
  | file path => exact .refl s

/-! ### Segments -/

/-- The segments inside a segment. -/
def Segment.inside : Segment → List Segment
  | .condition source => source
  | .deferred _ arguments => arguments
  | _ => []

/-- A segment is among some segments, at any depth. -/
inductive Occurs (segment : Segment) : List Segment → Prop where
  | here (behind : List Segment) : Occurs segment (segment :: behind)
  | behind (front : Segment) {behind : List Segment} (h : Occurs segment behind) :
      Occurs segment (front :: behind)
  | inside {around : Segment} (behind : List Segment) (h : Occurs segment around.inside) :
      Occurs segment (around :: behind)

lemma Occurs.front {inner segment : Segment} (h : Occurs inner [segment])
    (behind : List Segment) : Occurs inner (segment :: behind) := by
  cases h with
  | here => exact .here behind
  | behind _ h => cases h
  | inside _ h => exact .inside behind h

/-- What is known of every segment that has been read. -/
def Segment.Sound : Segment → Prop
  | .call c => c.Sound
  | .deferred _ arguments => literalText? arguments = none
  | _ => True

/-- All segments are sound, at every depth. -/
def Sound (segments : List Segment) : Prop :=
  ∀ segment, Occurs segment segments → segment.Sound

mutual

/-- What a segment comes to, and the source that it leaves. -/
inductive Emits (ctx : Context) : Segment → Source → List Char → Source → Prop where
  | literal (text : List Char) (s : Source) : Emits ctx (.literal text) s text s
  | hash (s : Source) : Emits ctx .hash s ['#'] s
  | counter (s : Source) :
      Emits ctx (.reference .counter) s (toString ctx.counter).toList s
  | dbPrefix (s : Source) : Emits ctx (.reference .dbPrefix) s ctx.dbPrefix.toList s
  | userPrefix (s : Source) : Emits ctx (.reference .userPrefix) s ctx.userPrefix.toList s
  | call {c : Call} {s t : Source} {text : List Char} (hresolve : c.resolve s = (text, t))
      (hgives : c.Gives text) : Emits ctx (.call c) s text t
  | condition {source : List Segment} {s t : Source} {pieces : List (List Char)}
      (hsource : EmitsAll ctx source s pieces t) :
      Emits ctx (.condition source) s (conditionMark pieces.flatten) t
  | deferred {kind : CallKind} {arguments : List Segment} {s t u : Source}
      {pieces : List (List Char)} {c : Call} {text : List Char}
      (harguments : EmitsAll ctx arguments s pieces t)
      (hcall : Call.ofArguments kind pieces.flatten = .ok c)
      (htext : Emits ctx (.call c) t text u) : Emits ctx (.deferred kind arguments) s text u

/-- What each of some segments comes to, one drawn after the other. -/
inductive EmitsAll (ctx : Context) :
    List Segment → Source → List (List Char) → Source → Prop where
  | nil (s : Source) : EmitsAll ctx [] s [] s
  | cons {segment : Segment} {segments : List Segment} {s t u : Source} {text : List Char}
      {pieces : List (List Char)} (hfirst : Emits ctx segment s text t)
      (hrest : EmitsAll ctx segments t pieces u) :
      EmitsAll ctx (segment :: segments) s (text :: pieces) u

end

/-- The error of a call among the segments that holds placeholders, and whose arguments are refused
once they have been resolved. -/
def Refuses (ctx : Context) (segments : List Segment) (s : Source) (e : Error) : Prop :=
  ∃ kind arguments, Occurs (.deferred kind arguments) segments ∧ literalText? arguments = none ∧
    ∃ t u text fault, s.Reaches t ∧ resolveAll ctx arguments t = (.ok text, u) ∧
      Call.ofArguments kind text = .error fault ∧
      e = .invalidPlaceholder (quoteCall kind text) fault

variable {ctx : Context}

/-! ### Resolved segments are texts of theirs -/

lemma Sound.front {segment : Segment} {segments : List Segment} (h : Sound (segment :: segments)) :
    Sound [segment] :=
  fun inner hinner => h inner (hinner.front segments)

lemma Sound.behind {segment : Segment} {segments : List Segment}
    (h : Sound (segment :: segments)) : Sound segments :=
  fun inner hinner => h inner (.behind segment hinner)

lemma Sound.inside {segment : Segment} (h : Sound [segment]) : Sound segment.inside :=
  fun inner hinner => h inner (.inside [] hinner)

lemma emits_of_callDraft {c : Call} (h : c.Sound) {s t : Source} {text : List Char}
    (hdraft : c.draft s = some (text, t)) : Emits ctx (.call c) s text t := by
  have hresolve : c.resolve s = (text, t) := Option.some.inj hdraft
  refine .call hresolve ?_
  have hgives := gives_resolve h s
  rwa [hresolve] at hgives

mutual

lemma emits_of_draft (segment : Segment) (h : Sound [segment]) {s t : Source} {text : List Char}
    (hdraft : segment.draft ctx s = some (text, t)) : Emits ctx segment s text t := by
  match segment with
  | .literal text' =>
    rw [draft_literal] at hdraft
    cases hdraft
    exact .literal _ _
  | .hash =>
    rw [draft_hash] at hdraft
    cases hdraft
    exact .hash _
  | .reference r =>
    rw [draft_reference] at hdraft
    cases hdraft
    cases r with
    | counter =>
      have htext : ctx.text .counter = (toString ctx.counter).toList :=
        Text.decimal_eq_toString ctx.counter
      rw [htext]
      exact .counter _
    | dbPrefix => exact .dbPrefix _
    | userPrefix => exact .userPrefix _
  | .call c =>
    rw [draft_call] at hdraft
    exact emits_of_callDraft (h _ (.here [])) hdraft
  | .condition source =>
    rw [draft_condition, map_eq_pure_bind] at hdraft
    obtain ⟨inner, u, hsource, hout⟩ := bind_eq_some_iff.1 hdraft
    obtain ⟨pieces, hpieces, rfl⟩ := emitsAll_of_draftAll source h.inside hsource
    cases hout
    exact .condition hpieces
  | .deferred kind arguments =>
    rw [draft_deferred] at hdraft
    obtain ⟨inner, u, harguments, hout⟩ := bind_eq_some_iff.1 hdraft
    obtain ⟨pieces, hpieces, rfl⟩ := emitsAll_of_draftAll arguments h.inside harguments
    cases hcall : Call.ofArguments kind pieces.flatten with
    | error fault =>
      rw [draft_of_ofArguments_eq_error hcall] at hout
      cases hout
    | ok c =>
      rw [draft_of_ofArguments hcall] at hout
      exact .deferred hpieces hcall (emits_of_callDraft (sound_of_ofArguments hcall) hout)

lemma emitsAll_of_draftAll (segments : List Segment) (h : Sound segments) {s t : Source}
    {text : List Char} (hdraft : draftAll ctx segments s = some (text, t)) :
    ∃ pieces, EmitsAll ctx segments s pieces t ∧ text = pieces.flatten := by
  match segments with
  | [] =>
    rw [draftAll_nil] at hdraft
    cases hdraft
    exact ⟨[], .nil _, rfl⟩
  | segment :: segments =>
    rw [draftAll_cons] at hdraft
    obtain ⟨first, u, hfirst, hdraft⟩ := bind_eq_some_iff.1 hdraft
    obtain ⟨rest, v, hrest, hout⟩ := bind_eq_some_iff.1 hdraft
    obtain ⟨pieces, hpieces, rfl⟩ := emitsAll_of_draftAll segments h.behind hrest
    cases hout
    exact ⟨first :: pieces, .cons (emits_of_draft segment h.front hfirst) hpieces, rfl⟩

end

mutual

lemma draft_of_emits {segment : Segment} {s t : Source} {text : List Char}
    (h : Emits ctx segment s text t) : segment.draft ctx s = some (text, t) := by
  match h with
  | .literal _ _ => rw [draft_literal]; rfl
  | .hash _ => rw [draft_hash]; rfl
  | .counter _ =>
    rw [draft_reference, ← Text.decimal_eq_toString]
    rfl
  | .dbPrefix _ => rw [draft_reference]; rfl
  | .userPrefix _ => rw [draft_reference]; rfl
  | .call hresolve _ =>
    rw [draft_call, ← hresolve]
    rfl
  | .condition hsource =>
    rw [draft_condition, map_eq_pure_bind]
    exact bind_eq_some_iff.2 ⟨_, _, draftAll_of_emitsAll hsource, rfl⟩
  | .deferred harguments hcall htext =>
    rw [draft_deferred]
    refine bind_eq_some_iff.2 ⟨_, _, draftAll_of_emitsAll harguments, ?_⟩
    rw [draft_of_ofArguments hcall, ← draft_call]
    exact draft_of_emits htext

lemma draftAll_of_emitsAll {segments : List Segment} {s t : Source} {pieces : List (List Char)}
    (h : EmitsAll ctx segments s pieces t) :
    draftAll ctx segments s = some (pieces.flatten, t) := by
  match h with
  | .nil _ => rw [draftAll_nil]; rfl
  | .cons hfirst hrest =>
    rw [draftAll_cons]
    refine bind_eq_some_iff.2 ⟨_, _, draft_of_emits hfirst, ?_⟩
    exact bind_eq_some_iff.2 ⟨_, _, draftAll_of_emitsAll hrest, rfl⟩

end

/-! ### Failing resolutions -/

mutual

lemma reaches_segment (segment : Segment) (s : Source) : s.Reaches (segment.resolve ctx s).2 := by
  match segment with
  | .literal _ | .hash | .reference _ =>
    rw [Segment.resolve]
    exact .refl s
  | .call c =>
    rw [Segment.resolve]
    exact reaches_resolve c s
  | .condition source =>
    have hsource := reaches_resolveAll source s
    rw [Segment.resolve]
    generalize resolveAll ctx source s = out at hsource
    obtain ⟨_ | text, t⟩ := out
    · exact hsource
    · exact hsource
  | .deferred kind arguments =>
    have harguments := reaches_resolveAll arguments s
    rw [Segment.resolve]
    generalize resolveAll ctx arguments s = out at harguments
    obtain ⟨_ | text, t⟩ := out
    · exact harguments
    · dsimp only
      cases Call.ofArguments kind text with
      | error fault => exact harguments
      | ok c => exact harguments.trans (reaches_resolve c t)

/-- A resolution takes words from the front of its source. -/
lemma reaches_resolveAll (segments : List Segment) (s : Source) :
    s.Reaches (resolveAll ctx segments s).2 := by
  match segments with
  | [] =>
    rw [resolveAll]
    exact .refl s
  | segment :: segments =>
    have hfirst := reaches_segment segment s
    rw [resolveAll]
    generalize segment.resolve ctx s = out at hfirst
    obtain ⟨_ | text, t⟩ := out
    · exact hfirst
    · have hrest := hfirst.trans (reaches_resolveAll segments t)
      dsimp only
      generalize resolveAll ctx segments t = out at hrest
      obtain ⟨_ | rest, u⟩ := out
      · exact hrest
      · exact hrest

end

/-- What is refused later, and further inside, is refused. -/
lemma Refuses.mono {segments segments' : List Segment} {s t : Source} {e : Error}
    (h : Refuses ctx segments t e) (hreach : s.Reaches t)
    (hoccurs : ∀ inner, Occurs inner segments → Occurs inner segments') :
    Refuses ctx segments' s e := by
  obtain ⟨kind, arguments, hin, hnested, u, v, text, fault, hreach', hrefused⟩ := h
  exact ⟨kind, arguments, hoccurs _ hin, hnested, u, v, text, fault, hreach.trans hreach', hrefused⟩

mutual

lemma refuses_of_segment (segment : Segment) (hsound : Sound [segment]) {s t : Source} {e : Error}
    (h : segment.resolve ctx s = (.error e, t)) : Refuses ctx [segment] s e := by
  match segment with
  | .literal _ | .hash | .reference _ | .call _ =>
    rw [Segment.resolve] at h
    cases h
  | .condition source =>
    rw [Segment.resolve] at h
    split at h
    · cases h
    · rename_i hsource
      cases h
      exact (refuses_of_resolveAll source hsound.inside hsource).mono (.refl s)
        fun _ h => .inside [] h
  | .deferred kind arguments =>
    rw [Segment.resolve] at h
    split at h
    · rename_i text u harguments
      split at h
      · cases h
      · rename_i fault hfault
        cases h
        have hnested : literalText? arguments = none := hsound _ (.here [])
        exact ⟨kind, arguments, .here [], hnested, s, _, text, fault, .refl s, harguments, hfault,
          rfl⟩
    · rename_i harguments
      cases h
      exact (refuses_of_resolveAll arguments hsound.inside harguments).mono (.refl s)
        fun _ h => .inside [] h

/-- A resolution fails only at a deferred call. -/
lemma refuses_of_resolveAll (segments : List Segment) (hsound : Sound segments) {s t : Source}
    {e : Error}
    (h : resolveAll ctx segments s = (.error e, t)) : Refuses ctx segments s e := by
  match segments with
  | [] =>
    rw [resolveAll] at h
    cases h
  | segment :: segments =>
    rw [resolveAll] at h
    split at h
    · rename_i text u hfirst
      split at h
      · cases h
      · rename_i hrest
        cases h
        have hreach : s.Reaches (segment.resolve ctx s).2 := reaches_segment segment s
        rw [hfirst] at hreach
        exact (refuses_of_resolveAll segments hsound.behind hrest).mono hreach
          fun _ h => .behind segment h
    · rename_i hfirst
      cases h
      exact (refuses_of_segment segment hsound.front hfirst).mono (.refl s)
        fun _ h => h.front segments

end

/-! ### Segments that have been read -/

lemma Sound.cons {segment : Segment} {segments : List Segment} (hsegment : segment.Sound)
    (hinside : Sound segment.inside) (h : Sound segments) : Sound (segment :: segments) := by
  intro inner hinner
  cases hinner with
  | here => exact hsegment
  | behind _ hinner => exact h inner hinner
  | inside _ hinner => exact hinside inner hinner

lemma sound_nil : Sound [] := by
  intro inner hinner
  cases hinner

lemma Sound.consChar {segments : List Segment} (h : Sound segments) (c : Char) :
    Sound (consChar c segments) := by
  unfold Template.consChar
  split
  · exact .cons trivial sound_nil h.behind
  · exact .cons trivial sound_nil h

/-- A call that is closed is sound if the segments inside it are. -/
lemma sound_of_closeCall? {kind : CallKind} {arguments : List Segment} {segment : Segment}
    (h : Sound arguments) (hclose : closeCall? kind arguments = some segment) :
    segment.Sound ∧ Sound segment.inside := by
  rcases cases_of_closeCall? hclose with ⟨hnested, rfl⟩ | ⟨text, c, -, hcall, rfl⟩
  · exact ⟨hnested, h⟩
  · exact ⟨sound_of_ofArguments hcall, sound_nil⟩

lemma sound_of_take? {inner rest : List Char} {segment : Segment}
    (h : Head.take? inner = some (.simple segment, rest)) :
    segment.Sound ∧ Sound segment.inside := by
  rcases Head.cases_of_take?_eq_simple h with rfl | ⟨r, rfl⟩
  · exact ⟨trivial, sound_nil⟩
  · exact ⟨trivial, sound_nil⟩

lemma Reads.sound {extent : Extent} {s rest : List Char} {segments : List Segment}
    (h : Reads extent s segments rest) : Sound segments := by
  induction h with
  | nil => exact sound_nil
  | finish => exact sound_nil
  | escape _ ih => exact .cons trivial sound_nil ih
  | plain _ _ _ ih => exact ih.consChar _
  | unknown _ _ ih => exact (ih.consChar '{').consChar '#'
  | simple hhead _ ih =>
    obtain ⟨hsegment, hnone⟩ := sound_of_take? hhead
    exact .cons hsegment hnone ih
  | condition _ _ _ ihsource ih => exact .cons trivial ihsource ih
  | call _ _ hclose _ iharguments ih =>
    obtain ⟨hsegment, hinside⟩ := sound_of_closeCall? iharguments hclose
    exact .cons hsegment hinside ih

/-- Whatever has been read is sound. -/
lemma sound_of_read? (extent : Extent) (s : List Char) : ∀ out ∈ read? extent s, Sound out.1 :=
  fun _ hout => (reads_of_read? hout).sound

/-- What a template is resolved to is one text of each of its segments, in their order, and whatever
consists of such texts is what it is resolved to. It is not resolved only where a call that had to
wait for its arguments is refused, so that templates without such calls always are. -/
theorem resolveAll_tokenize {text : List Char} {segments : List Segment}
    (htext : tokenize text = .ok segments) (ctx : Context) (s : Source) :
    (∀ out t, resolveAll ctx segments s = (.ok out, t) ↔
      ∃ pieces, EmitsAll ctx segments s pieces t ∧ out = pieces.flatten) ∧
    (∀ e t, resolveAll ctx segments s = (.error e, t) → Refuses ctx segments s e) ∧
    ((∀ kind arguments, ¬ Occurs (.deferred kind arguments) segments) →
      ∃ out t, resolveAll ctx segments s = (.ok out, t)) := by
  have hread : (read? .text text).map Prod.fst = some segments := by
    rw [← toOption_tokenize, htext]
    rfl
  obtain ⟨out, hout, rfl⟩ := Option.map_eq_some_iff.1 hread
  have hsound : Sound out.1 := sound_of_read? .text text out hout
  refine ⟨?_, fun e t => refuses_of_resolveAll out.1 hsound, ?_⟩
  · intro made t
    rw [← draftAll_eq_some_iff]
    constructor
    · exact emitsAll_of_draftAll out.1 hsound
    · rintro ⟨pieces, hpieces, rfl⟩
      exact draftAll_of_emitsAll hpieces
  · intro hnone
    cases hresolve : resolveAll ctx out.1 s with
    | mk made t =>
      cases made with
      | ok made => exact ⟨made, t, rfl⟩
      | error e =>
        obtain ⟨kind, arguments, hoccurs, -⟩ := refuses_of_resolveAll out.1 hsound hresolve
        exact absurd hoccurs (hnone kind arguments)

/-- An instance with a call that is resolved and one that is refused, for it draws from an empty
range. -/
theorem resolveAll_tokenize_calls :
    let ctx : Context := ⟨0, "db", "user"⟩
    let s := Source.ofWords #[0]
    let picking := "#\x7bpick(a,#\x7bdb_prefix\x7d)\x7d\\##\x7bdoc_id_counter\x7d".toList
    let drawing := "#\x7brandom_int(1,#\x7bdoc_id_counter\x7d)\x7d".toList
    let picked := [.deferred .pick [.literal "a,".toList, .reference .dbPrefix], .hash,
      .reference .counter]
    let drawn := [.deferred .randomInt [.literal "1,".toList, .reference .counter]]
    tokenize picking = .ok picked ∧ tokenize drawing = .ok drawn ∧
      (∃ pieces t, EmitsAll ctx picked s pieces t ∧ pieces.flatten = "a#0".toList) ∧
      ∃ e, Refuses ctx drawn s e := by
  intro ctx s picking drawing picked drawn
  have hpicked : tokenize picking = .ok picked := rfl
  have hdrawn : tokenize drawing = .ok drawn := rfl
  have hresolve : resolveAll ctx picked s = (.ok "a#0".toList, (resolveAll ctx picked s).2) :=
    Prod.ext (by decide +kernel) rfl
  have hfail : resolveAll ctx drawn s =
      (.error (.invalidPlaceholder "#\x7brandom_int(1,0)\x7d".toList .boundsOutOfOrder),
        (resolveAll ctx drawn s).2) :=
    Prod.ext (by decide +kernel) rfl
  obtain ⟨pieces, hpieces, hflatten⟩ := ((resolveAll_tokenize hpicked ctx s).1 _ _).1 hresolve
  exact ⟨hpicked, hdrawn, ⟨pieces, _, hpieces, hflatten.symm⟩, _,
    (resolveAll_tokenize hdrawn ctx s).2.1 _ _ hfail⟩

end CouchLoad.Template
