import CouchLoad.Proofs.Template.Spans
import CouchLoad.Proofs.Text.Cuts
import CouchLoad.Template.Cursor

/-!
# The cursor reads what the scan reads

The cursor never leaves the boundaries of the characters: at every turn it stands where a tail of
the text starts, which is the tail that the scan has before it. So both read the same, and the
cursor needs no more turns than the text has characters. That it moves on at every turn holds
wherever it is set down.
-/

namespace CouchLoad.Template

open Text

/-! ### Offsets -/

/-- Where a tail of a text starts. -/
def offset (text s : List Char) : Nat :=
  utf8Length text - utf8Length s

section Offsets

variable {text opening s : List Char}

lemma offset_append (front behind : List Char) :
    offset (front ++ behind) behind = utf8Length front := by
  rw [offset, utf8Length_append, Nat.add_sub_cancel]

lemma offset_add (front : List Char) (h : front ++ s <:+ text) :
    offset text (front ++ s) + utf8Length front = offset text s := by
  obtain ⟨before, rfl⟩ := h
  rw [offset_append, ← List.append_assoc, offset_append, utf8Length_append]

lemma offset_cons {c : Char} (h : c :: s <:+ text) :
    offset text (c :: s) + c.utf8Size = offset text s := by
  have hlength : utf8Length [c] = c.utf8Size := Nat.zero_add _
  rw [← hlength]
  exact offset_add [c] h

lemma sliceFrom?_offset (h : s <:+ text) : sliceFrom? text (offset text s) = some s := by
  obtain ⟨before, rfl⟩ := h
  rw [sliceFrom?, offset_append, splitAtByte?_utf8Length]
  rfl

lemma slice?_offset {front : List Char} (h : front ++ s <:+ text) :
    slice? text (offset text (front ++ s)) (offset text s) = some front := by
  obtain ⟨before, rfl⟩ := h
  rw [slice?, offset_append, ← List.append_assoc, offset_append, splitAtByte?_utf8Length]
  change (splitAtByte? (utf8Length before) (before ++ front)).map Prod.snd = some front
  rw [splitAtByte?_utf8Length]
  rfl

/-- A placeholder is quoted as far as it was read. -/
lemma slice?_opening (hs : s <:+ opening) (h : opening <:+ text) :
    slice? text (offset text opening) (offset text s) =
      some (opening.take (opening.length - s.length)) := by
  obtain ⟨front, rfl⟩ := hs
  rw [slice?_offset h, List.length_append, Nat.add_sub_cancel, List.take_left]

end Offsets

/-! ### One turn -/

/-- What a scan of the text comes to, told by offsets. -/
def located (text : List Char) : Except ScanFault (List Segment × List Char) →
    Cut (List Segment × Nat)
  | .ok (segments, rest) => pure (segments, offset text rest)
  | .error fault => throw (fault.error text)

lemma located_map (text : List Char) (put : List Segment → List Segment)
    (read : Except ScanFault (List Segment × List Char)) :
    located text (read.map (inFront put)) =
      located text read >>= fun out => pure (put out.1, out.2) := by
  cases read <;> rfl

lemma lift_some_bind {α β : Type} (a : α) (f : α → Cut β) : (liftM (some a) : Cut α) >>= f = f a :=
  rfl

section Turns

variable {text opening inner : List Char}

/-- The cursor finds the head that the scan finds. -/
lemma headAt?_offset (h : '#' :: '{' :: inner <:+ text) :
    headAt? text (offset text ('#' :: '{' :: inner)) =
      some ((Head.take? inner).map fun (head, rest) => (head, offset text rest)) := by
  have hinner : inner <:+ text := (List.suffix_append ['#', '{'] inner).trans h
  have hopening : offset text ('#' :: '{' :: inner) + 2 = offset text inner :=
    offset_add ['#', '{'] h
  obtain ⟨name, behind, rfl, hname, hbehind⟩ := exists_span isNamePart inner
  have hdrop : behind <:+ text := (List.suffix_append name behind).trans hinner
  rw [take?_append hname hbehind]
  unfold headAt?
  simp only [hopening, sliceFrom?_offset hinner, (span_append hname hbehind).1,
    offset_add name hinner, slice?_offset hinner, sliceFrom?_offset hdrop, Option.bind_eq_bind,
    Option.bind_some]
  split
  · rename_i rest
    have hrest : offset text ('}' :: rest) + 1 = offset text rest := offset_cons hdrop
    rw [hrest, Head.ofName?]
    cases Head.simple? name <;> rfl
  · rename_i rest
    have hrest : offset text ('(' :: rest) + 1 = offset text rest := offset_cons hdrop
    rw [hrest, Head.ofName?]
    split
    · rfl
    · cases CallKind.ofName? name <;> rfl
  · rename_i hclose hopen
    rw [Head.ofName?]
    · rfl
    · exact hclose
    · exact hopen

variable {read : Read} {rest : List Char}

lemma placeholderAt_none (h : '#' :: '{' :: inner <:+ text) (hhead : Head.take? inner = none) :
    placeholderAt read text (offset text ('#' :: '{' :: inner)) =
      pure (none, offset text ('#' :: '{' :: inner)) := by
  rw [placeholderAt, headAt?_offset h, hhead]
  rfl

lemma placeholderAt_simple {segment : Segment} (h : '#' :: '{' :: inner <:+ text)
    (hhead : Head.take? inner = some (.simple segment, rest)) :
    placeholderAt read text (offset text ('#' :: '{' :: inner)) =
      pure (some segment, offset text rest) := by
  rw [placeholderAt, headAt?_offset h, hhead]
  rfl

variable {out : Except ScanFault (List Segment × List Char)}

lemma placeholderAt_condition (h : '#' :: '{' :: inner <:+ text)
    (hhead : Head.take? inner = some (.condition, rest))
    (hread : read (.condition 0) (offset text ('#' :: '{' :: inner)) (offset text rest) =
      located text out) :
    placeholderAt read text (offset text ('#' :: '{' :: inner)) =
      located text out >>= fun out => pure (some (.condition out.1), out.2) := by
  rw [placeholderAt, headAt?_offset h, hhead, ← hread]
  rfl

lemma placeholderAt_call {kind : CallKind} {arguments : List Segment} {rest' : List Char}
    (h : '#' :: '{' :: inner <:+ text)
    (hhead : Head.take? inner = some (.call kind, rest)) (hrest : rest' <:+ '#' :: '{' :: inner)
    (hread : read .arguments (offset text ('#' :: '{' :: inner)) (offset text rest) =
      pure (arguments, offset text rest')) :
    placeholderAt read text (offset text ('#' :: '{' :: inner)) =
      match closeCall kind arguments with
      | .ok segment => pure (some segment, offset text rest')
      | .error fault =>
        throw ((ScanFault.invalid ('#' :: '{' :: inner) rest' fault).error text) := by
  rw [placeholderAt, headAt?_offset h, hhead, lift_some_bind]
  dsimp only [Option.map_some]
  rw [hread, pure_bind]
  unfold closeCall
  cases literalText? arguments with
  | none => rfl
  | some plain =>
    dsimp only
    rw [slice?_opening hrest h, lift_some_bind]
    cases Call.ofArguments kind plain <;> rfl

lemma placeholderAt_call_of_error {kind : CallKind} {e : Error} (h : '#' :: '{' :: inner <:+ text)
    (hhead : Head.take? inner = some (.call kind, rest))
    (hread : read .arguments (offset text ('#' :: '{' :: inner)) (offset text rest) = throw e) :
    placeholderAt read text (offset text ('#' :: '{' :: inner)) = throw e := by
  rw [placeholderAt, headAt?_offset h, hhead, lift_some_bind]
  dsimp only [Option.map_some]
  rw [hread]
  rfl

variable (read) (extent : Extent) (start : Nat)

lemma turnAt_nil : turnAt read text extent start (offset text []) =
    if extent = .text then pure (.finish (offset text []))
    else throw (.unterminatedPlaceholder start) := by
  rw [turnAt, sliceFrom?_offset List.nil_suffix]
  rfl

lemma turnAt_escape (h : '\\' :: '#' :: rest <:+ text) :
    turnAt read text extent start (offset text ('\\' :: '#' :: rest)) =
      pure (.go (.hash :: ·) extent (offset text rest)) := by
  have hrest : offset text ('\\' :: '#' :: rest) + 2 = offset text rest :=
    offset_add ['\\', '#'] h
  rw [turnAt, sliceFrom?_offset h, ← hrest]
  rfl

lemma turnAt_opening (h : '#' :: '{' :: inner <:+ text) :
    turnAt read text extent start (offset text ('#' :: '{' :: inner)) =
      placeholderAt read text (offset text ('#' :: '{' :: inner)) >>= fun
        | (some segment, cursor) => pure (.go (segment :: ·) extent cursor)
        | (none, cursor) =>
          pure (.go (fun more => consChar '#' (consChar '{' more)) extent (cursor + 2)) := by
  rw [turnAt, sliceFrom?_offset h]
  rfl

lemma turnAt_plain {c : Char} (hc : IsPlain c rest) (h : c :: rest <:+ opening)
    (hopening : opening <:+ text) :
    turnAt read text extent (offset text opening) (offset text (c :: rest)) =
      match extent.step c rest with
      | .finish rest => pure (.finish (offset text rest))
      | .unbalanced => throw (ScanFault.error text (.invalid opening rest .unbalancedParenthesis))
      | .stay extent => pure (.go (consChar c) extent (offset text rest)) := by
  have hcursor : c :: rest <:+ text := h.trans hopening
  have hstay : offset text (c :: rest) + c.utf8Size = offset text rest := offset_cons hcursor
  rw [turnAt, sliceFrom?_offset hcursor, lift_some_bind]
  split
  · rename_i hsplit
    cases hsplit
  · rename_i hsplit
    cases hsplit
    exact absurd rfl (hc.1 rfl)
  · rename_i hsplit
    cases hsplit
    exact absurd rfl (hc.2 rfl)
  · rename_i hsplit
    cases hsplit
    cases hstep : extent.step c rest with
    | finish rest' =>
      obtain ⟨-, rfl, rfl⟩ := Extent.eq_of_step_eq_finish hstep
      have hend : offset text (')' :: '}' :: rest') + 2 = offset text rest' :=
        offset_add [')', '}'] hcursor
      exact congrArg (fun stop => pure (Turn.finish stop)) hend
    | unbalanced =>
      obtain rfl := Extent.eq_of_step_eq_unbalanced hstep
      have hrest : offset text (')' :: rest) + 1 = offset text rest := hstay
      rw [hrest, slice?_opening ((List.suffix_cons ')' rest).trans h) hopening]
      rfl
    | stay extent =>
      exact congrArg (fun next => pure (Turn.go (consChar c) extent next)) hstay

end Turns

/-! ### The whole scan -/

/-- From where a tail of the text starts, the cursor reads what the scan reads of it, if there is
fuel for each of its characters. -/
def Agree (text : List Char) (fuel : Nat) : Prop :=
  ∀ ⦃opening s : List Char⦄, s <:+ opening → opening <:+ text → s.length < fuel →
    ∀ extent, scanAt text fuel extent (offset text opening) (offset text s) =
      located text (scan fuel extent opening s)

section Agreement

variable {text opening : List Char} {fuel : Nat}

/-- What is inside a placeholder is read alike, and so is what follows it. -/
lemma agree_opening {inner : List Char} (h : Agree text fuel)
    (hs : '#' :: '{' :: inner <:+ opening) (hopening : opening <:+ text)
    (hfuel : ('#' :: '{' :: inner).length ≤ fuel) (extent : Extent) :
    scanAt text (fuel + 1) extent (offset text opening) (offset text ('#' :: '{' :: inner)) =
      located text (scan (fuel + 1) extent opening ('#' :: '{' :: inner)) := by
  have htext := hs.trans hopening
  have hinner := List.suffix_append ['#', '{'] inner
  simp only [List.length_cons] at hfuel
  rw [scanAt, turnAt_opening _ _ _ htext]
  cases hhead : Head.take? inner with
  | none =>
    have hcursor : offset text ('#' :: '{' :: inner) + 2 = offset text inner :=
      offset_add ['#', '{'] htext
    rw [placeholderAt_none htext hhead, scan_eq_unknown _ _ _ hhead, located_map,
      ← h (hinner.trans hs) hopening (by omega), ← hcursor]
    rfl
  | some out =>
    obtain ⟨head, rest⟩ := out
    obtain ⟨hsuffix, hlength⟩ := Head.suffix_of_take? hhead
    have hrest := hsuffix.trans hinner
    have hinside (extent : Extent) :
        scanAt text fuel extent (offset text ('#' :: '{' :: inner)) (offset text rest) =
          located text (scan fuel extent ('#' :: '{' :: inner) rest) :=
      h hrest htext (by omega) extent
    have hbehind {extent' : Extent} {segments : List Segment} {rest' : List Char}
        (hscan : scan fuel extent' ('#' :: '{' :: inner) rest = .ok (segments, rest')) :
        rest' <:+ '#' :: '{' :: inner ∧
          scanAt text fuel extent (offset text opening) (offset text rest') =
            located text (scan fuel extent opening rest') := by
      have hsuffix' : rest' <:+ rest := suffix_of_scan (congrArg Except.toOption hscan)
      have hshort := hsuffix'.length_le
      have hrest' := hsuffix'.trans hrest
      exact ⟨hrest', h (hrest'.trans hs) hopening (by omega) extent⟩
    cases head with
    | simple segment =>
      rw [placeholderAt_simple htext hhead, scan_eq_simple _ _ _ hhead, located_map,
        ← h (hrest.trans hs) hopening (by omega)]
      rfl
    | condition =>
      rw [placeholderAt_condition htext hhead (hinside _), scan_eq_condition _ _ _ hhead]
      cases hscan : scan fuel (.condition 0) ('#' :: '{' :: inner) rest with
      | error fault => rfl
      | ok out =>
        change _ = located text ((scan fuel extent opening out.2).map _)
        rw [located_map, ← (hbehind hscan).2]
        rfl
    | call kind =>
      have hread := hinside .arguments
      rw [scan_eq_call _ _ _ hhead]
      cases hscan : scan fuel .arguments ('#' :: '{' :: inner) rest with
      | error fault =>
        rw [hscan] at hread
        rw [placeholderAt_call_of_error htext hhead hread]
        rfl
      | ok out =>
        obtain ⟨hrest', hsame⟩ := hbehind hscan
        rw [hscan] at hread
        rw [placeholderAt_call htext hhead hrest' hread]
        change _ = located text ((closeCall kind out.1).mapError _ >>= _)
        cases closeCall kind out.1 with
        | error fault => rfl
        | ok segment =>
          change _ = located text ((scan fuel extent opening out.2).map _)
          rw [located_map, ← hsame]
          rfl

lemma agree (text : List Char) (fuel : Nat) : Agree text fuel := by
  induction fuel with
  | zero =>
    intro _ _ _ _ hfuel
    cases hfuel
  | succ fuel ih =>
    intro opening s hs hopening hfuel extent
    have htext := hs.trans hopening
    induction s using front_cases with
    | nil =>
      rw [scanAt, turnAt_nil, scan_eq_nil]
      split <;> rfl
    | escape rest =>
      have hrest := (List.suffix_append ['\\', '#'] rest).trans hs
      simp only [List.length_cons] at hfuel
      rw [scanAt, turnAt_escape _ _ _ htext, scan_eq_escape, located_map,
        ← ih hrest hopening (by omega)]
      rfl
    | opening inner => exact agree_opening ih hs hopening (Nat.le_of_lt_succ hfuel) extent
    | plain c rest hc =>
      have hrest := (List.suffix_cons c rest).trans hs
      simp only [List.length_cons] at hfuel
      rw [scanAt, turnAt_plain _ _ hc hs hopening, scan_eq_plain _ _ _ hc]
      cases hstep : extent.step c rest with
      | finish rest' => rfl
      | unbalanced => rfl
      | stay extent =>
        dsimp only
        rw [located_map, ← ih hrest hopening (by omega)]
        rfl

end Agreement

/-! ### The way forward -/

section Forward

variable {α β : Type}

lemma bind_eq_pure_iff {x : Cut α} {f : α → Cut β} {b : β} :
    x >>= f = pure b ↔ ∃ a, x = pure a ∧ f a = pure b := by
  constructor
  · intro h
    match x, h with
    | some (.ok a), h => exact ⟨a, rfl, h⟩
  · rintro ⟨a, rfl, h⟩
    exact h

lemma lift_bind_eq_pure_iff {o : Option α} {f : α → Cut β} {b : β} :
    (liftM o : Cut α) >>= f = pure b ↔ ∃ a, o = some a ∧ f a = pure b := by
  constructor
  · intro h
    match o, h with
    | some a, h => exact ⟨a, rfl, h⟩
  · rintro ⟨a, rfl, h⟩
    exact h

/-- A way to read that does not take the cursor back. -/
def Forward (read : Read) : Prop :=
  ∀ ⦃extent start cursor segments stop⦄, read extent start cursor = pure (segments, stop) →
    cursor ≤ stop

variable {read : Read} {text : List Char} {extent : Extent} {start cursor : Nat}

lemma lt_of_headAt? {head : Head} (h : headAt? text start = some (some (head, cursor))) :
    start < cursor := by
  unfold headAt? at h
  simp only [Option.bind_eq_bind, Option.bind_eq_some_iff] at h
  obtain ⟨inner, -, name, -, behind, -, h⟩ := h
  split at h
  · obtain ⟨segment, -, hout⟩ := Option.map_eq_some_iff.1 (Option.some.inj h)
    cases hout
    omega
  · split at h
    · cases h
      omega
    · obtain ⟨kind, -, hout⟩ := Option.map_eq_some_iff.1 (Option.some.inj h)
      cases hout
      omega
  · cases h

/-- What is no placeholder is not passed, and a placeholder is. -/
lemma cursor_of_placeholderAt (hread : Forward read) {segment? : Option Segment}
    (h : placeholderAt read text start = pure (segment?, cursor)) :
    (segment? = none → cursor = start) ∧ (segment? ≠ none → start < cursor) := by
  have hpassed {segment : Segment} {stop : Nat} (hstop : start < stop)
      (h : (pure (some segment, stop) : Cut (Option Segment × Nat)) = pure (segment?, cursor)) :
      (segment? = none → cursor = start) ∧ (segment? ≠ none → start < cursor) := by
    cases h
    exact ⟨nofun, fun _ => hstop⟩
  obtain ⟨head?, hhead, h⟩ := lift_bind_eq_pure_iff.1 h
  match head? with
  | none =>
    cases h
    exact ⟨fun _ => rfl, fun h => absurd rfl h⟩
  | some (.simple segment, behind) => exact hpassed (lt_of_headAt? hhead) h
  | some (.condition, behind) =>
    obtain ⟨⟨source, stop⟩, hsource, h⟩ := bind_eq_pure_iff.1 h
    exact hpassed (Nat.lt_of_lt_of_le (lt_of_headAt? hhead) (hread hsource)) h
  | some (.call kind, behind) =>
    obtain ⟨⟨arguments, stop⟩, harguments, h⟩ := bind_eq_pure_iff.1 h
    have hstop := Nat.lt_of_lt_of_le (lt_of_headAt? hhead) (hread harguments)
    dsimp only at h
    split at h
    · exact hpassed hstop h
    · obtain ⟨quoted, -, h⟩ := lift_bind_eq_pure_iff.1 h
      split at h
      · exact hpassed hstop h
      · cases h

/-- Where a turn leaves the cursor. -/
def Turn.next : Turn → Nat
  | .finish stop => stop
  | .go _ _ next => next

/-- Every turn takes the cursor on, the one at the end of the text apart. -/
lemma cursor_of_turnAt (hread : Forward read) {turn : Turn}
    (h : turnAt read text extent start cursor = pure turn) :
    cursor < turn.next ∨ extent = .text ∧ turn = .finish cursor := by
  obtain ⟨s, -, h⟩ := lift_bind_eq_pure_iff.1 h
  split at h
  · split at h
    · rename_i hextent
      cases h
      exact .inr ⟨hextent, rfl⟩
    · cases h
  · cases h
    exact .inl (Nat.lt_add_of_pos_right Nat.two_pos)
  · obtain ⟨⟨segment?, behind⟩, hplaceholder, h⟩ := bind_eq_pure_iff.1 h
    obtain ⟨hunknown, hknown⟩ := cursor_of_placeholderAt hread hplaceholder
    cases segment? with
    | none =>
      cases h
      obtain rfl : behind = cursor := hunknown rfl
      exact .inl (Nat.lt_add_of_pos_right Nat.two_pos)
    | some segment =>
      cases h
      exact .inl (hknown (Option.some_ne_none segment))
  · split at h
    · cases h
      exact .inl (Nat.lt_add_of_pos_right Nat.two_pos)
    · obtain ⟨quoted, -, h⟩ := lift_bind_eq_pure_iff.1 h
      cases h
    · cases h
      exact .inl (Nat.lt_add_of_pos_right (Char.utf8Size_pos _))

lemma forward_scanAt (text : List Char) (fuel : Nat) : Forward (scanAt text fuel) := by
  induction fuel with
  | zero =>
    intro _ _ _ _ _ h
    cases h
  | succ fuel ih =>
    intro extent start cursor segments stop h
    rw [scanAt] at h
    obtain ⟨turn, hturn, h⟩ := bind_eq_pure_iff.1 h
    have hcursor : cursor ≤ turn.next := by
      rcases cursor_of_turnAt ih hturn with hlt | ⟨-, rfl⟩
      · exact Nat.le_of_lt hlt
      · exact Nat.le_refl cursor
    cases turn with
    | finish stop =>
      cases h
      exact hcursor
    | go put extent next =>
      obtain ⟨⟨segments, stop⟩, hnext, hout⟩ := bind_eq_pure_iff.1 h
      cases hout
      exact Nat.le_trans hcursor (ih hnext)

end Forward

/-! ### Unterminated placeholders -/

/-- A placeholder that has to be closed opens here. -/
def Opens (s : List Char) : Prop :=
  ∃ head ∈ Head.all, (∀ segment, head ≠ .simple segment) ∧ head.opening <+: s

lemma opens_of_take? {inner rest : List Char} {head : Head}
    (h : Head.take? inner = some (head, rest)) (hhead : ∀ segment, head ≠ .simple segment) :
    Opens ('#' :: '{' :: inner) := by
  obtain ⟨hopening, hmem⟩ := Head.eq_opening_append h
  exact ⟨head, hmem, hhead, hopening ▸ List.prefix_append ..⟩

/-- What is not closed is the placeholder around what is read, or one that opens in it. -/
def OpensIn (extent : Extent) (opening s unclosed : List Char) : Prop :=
  extent ≠ .text ∧ unclosed = opening ∨ unclosed <:+ s ∧ Opens unclosed

lemma OpensIn.trans {extent : Extent} {opening s rest unclosed : List Char}
    (h : OpensIn extent opening rest unclosed) (hrest : rest <:+ s) :
    OpensIn extent opening s unclosed :=
  h.imp_right (And.imp_left fun hunclosed => hunclosed.trans hrest)

/-- A placeholder that ends is not the one that is not closed. -/
lemma opensIn_opening {fuel : Nat} {extent : Extent} {opening inner unclosed : List Char}
    (ih : ∀ extent opening s, s.length < fuel →
      scan fuel extent opening s = .error (.unterminated unclosed) →
        OpensIn extent opening s unclosed)
    (hfuel : ('#' :: '{' :: inner).length ≤ fuel)
    (h : scan (fuel + 1) extent opening ('#' :: '{' :: inner) = .error (.unterminated unclosed)) :
    OpensIn extent opening ('#' :: '{' :: inner) unclosed := by
  have hinner := List.suffix_append ['#', '{'] inner
  simp only [List.length_cons] at hfuel
  cases hhead : Head.take? inner with
  | none =>
    rw [scan_eq_unknown _ _ _ hhead] at h
    exact (ih _ _ _ (by omega) (map_eq_error_iff.1 h)).trans hinner
  | some out =>
    obtain ⟨head, rest⟩ := out
    obtain ⟨hsuffix, hlength⟩ := Head.suffix_of_take? hhead
    have hrest := hsuffix.trans hinner
    have hinside {extent' : Extent} (hsimple : ∀ segment, head ≠ .simple segment)
        (h : scan fuel extent' ('#' :: '{' :: inner) rest = .error (.unterminated unclosed)) :
        OpensIn extent opening ('#' :: '{' :: inner) unclosed := by
      rcases (ih _ _ _ (by omega) h).trans hrest with ⟨-, rfl⟩ | hunclosed
      · exact .inr ⟨List.suffix_rfl, opens_of_take? hhead hsimple⟩
      · exact .inr hunclosed
    have hbehind {extent' : Extent} {out : List Segment × List Char}
        {f : List Segment → List Segment}
        (hscan : scan fuel extent' ('#' :: '{' :: inner) rest = .ok out)
        (h : (scan fuel extent opening out.2).map (inFront f) =
          .error (.unterminated unclosed)) :
        OpensIn extent opening ('#' :: '{' :: inner) unclosed := by
      have hout : out.2 <:+ rest := suffix_of_scan (congrArg Except.toOption hscan)
      have hshort := hout.length_le
      exact (ih _ _ _ (by omega) (map_eq_error_iff.1 h)).trans (hout.trans hrest)
    cases head with
    | simple segment =>
      rw [scan_eq_simple _ _ _ hhead] at h
      exact (ih _ _ _ (by omega) (map_eq_error_iff.1 h)).trans hrest
    | condition =>
      rw [scan_eq_condition _ _ _ hhead] at h
      rcases bind_eq_error_iff.1 h with h | ⟨out, hscan, h⟩
      · exact hinside (fun _ => Head.noConfusion) h
      · exact hbehind hscan h
    | call kind =>
      rw [scan_eq_call _ _ _ hhead] at h
      rcases bind_eq_error_iff.1 h with h | ⟨out, hscan, h⟩
      · exact hinside (fun _ => Head.noConfusion) h
      · rcases bind_eq_error_iff.1 h with h | ⟨segment, -, h⟩
        · cases hclose : closeCall kind out.1 <;> rw [hclose] at h <;> cases h
        · exact hbehind hscan h

lemma opensIn_of_scan {fuel : Nat} {extent : Extent} {opening s unclosed : List Char}
    (hfuel : s.length < fuel) (h : scan fuel extent opening s = .error (.unterminated unclosed)) :
    OpensIn extent opening s unclosed := by
  induction fuel generalizing extent opening s with
  | zero => cases hfuel
  | succ fuel ih =>
    induction s using front_cases with
    | nil =>
      rw [scan_eq_nil] at h
      split at h
      · cases h
      · rename_i hextent
        cases h
        exact .inl ⟨hextent, rfl⟩
    | escape rest =>
      simp only [List.length_cons] at hfuel
      rw [scan_eq_escape] at h
      exact (ih (by omega) (map_eq_error_iff.1 h)).trans (List.suffix_append ['\\', '#'] rest)
    | plain c rest hc =>
      simp only [List.length_cons] at hfuel
      rw [scan_eq_plain _ _ _ hc] at h
      cases hstep : extent.step c rest with
      | finish rest =>
        rw [hstep] at h
        cases h
      | unbalanced =>
        rw [hstep] at h
        cases h
      | stay extent' =>
        rw [hstep] at h
        have hextent : extent' ≠ .text → extent ≠ .text := by
          rintro hne rfl
          cases hstep
          exact hne rfl
        have hrest : OpensIn extent opening rest unclosed :=
          (ih (by omega) (map_eq_error_iff.1 h)).imp_left (And.imp_left hextent)
        exact hrest.trans (List.suffix_cons c rest)
    | opening inner =>
      exact opensIn_opening (fun _ _ _ => ih) (Nat.le_of_lt_succ hfuel) h

/-! ### Nothing is lost -/

/-- How a text is read. Scanning it with a cursor comes to an end and never cuts a character; an
unknown placeholder is not passed, and everything else is. The text is the spans of its segments,
one after the other and at every depth, in which text stands in one piece; it is kept as it is if
nothing is escaped and no placeholder opens in it. A placeholder is reported as unterminated at the
offset where a call or a condition opens. -/
theorem tokenize_faithful (text : List Char) :
    (scanAt text (text.length + 1) .text 0 0).run =
        some ((tokenize text).map fun segments => (segments, utf8Length text)) ∧
      (∀ fuel start segment? cursor,
        placeholderAt (scanAt text fuel) text start = pure (segment?, cursor) →
          (segment? = none → cursor = start) ∧ (segment? ≠ none → start < cursor)) ∧
      (∀ fuel extent start cursor turn,
        turnAt (scanAt text fuel) text extent start cursor = pure turn →
          cursor < turn.next ∨ extent = .text ∧ turn = .finish cursor) ∧
      (∀ segments, tokenize text = .ok segments →
        (∃ spans, List.Forall₂ Covers segments spans ∧ text = spans.flatten) ∧
          MergedAll segments) ∧
      (Unmarked text → tokenize text = .ok (verbatim text)) ∧
      (∀ place, tokenize text = .error (.unterminatedPlaceholder place) →
        ∃ before behind, text = before ++ behind ∧ utf8Length before = place ∧ Opens behind) := by
  have hread : ∀ segments, tokenize text = .ok segments → Reads .text text segments [] := by
    intro segments h
    obtain ⟨⟨_, rest⟩, hread, rfl⟩ := Option.map_eq_some_iff.1 (tokenize_eq_ok_iff.1 h)
    have hreads := reads_of_read? hread
    obtain rfl := hreads.eq_nil
    exact hreads
  refine ⟨?_, ?_, ?_, ?_, ?_, ?_⟩
  · have hfuel : text.length < text.length + 1 := Nat.lt_succ_self _
    have hscan := agree text _ List.suffix_rfl List.suffix_rfl hfuel .text
    have hstart : offset text text = 0 := offset_append [] text
    have hend : offset text [] = utf8Length text := Nat.sub_zero _
    rw [hstart] at hscan
    rw [hscan, tokenize]
    cases hout : scan (text.length + 1) .text text text with
    | error fault => rfl
    | ok out =>
      have hreads := reads_of_read? (congrArg Except.toOption hout)
      obtain ⟨segments, rest⟩ := out
      obtain rfl := hreads.eq_nil
      rw [← hend]
      rfl
  · exact fun fuel _ _ _ => cursor_of_placeholderAt (forward_scanAt text fuel)
  · exact fun fuel _ _ _ _ => cursor_of_turnAt (forward_scanAt text fuel)
  · intro segments h
    obtain ⟨spans, hspans, htext⟩ := (hread segments h).covers
    exact ⟨⟨spans, hspans, by simpa [Extent.closing] using htext⟩, (hread segments h).mergedAll⟩
  · intro h
    rw [tokenize_eq_ok_iff, read?_of_unmarked h]
    rfl
  · intro place h
    rw [tokenize] at h
    cases hout : scan (text.length + 1) .text text text with
    | ok out =>
      rw [hout] at h
      cases h
    | error fault =>
      rw [hout] at h
      cases fault with
      | invalid => cases h
      | unterminated unclosed =>
        cases h
        rcases opensIn_of_scan (Nat.lt_succ_self _) hout with ⟨hne, -⟩ | ⟨⟨before, rfl⟩, hopens⟩
        · exact absurd rfl hne
        · exact ⟨before, unclosed, rfl, (offset_append before unclosed).symm, hopens⟩

example : (scanAt ['é', '\\', '#'] 4 .text 0 0).run = some (.ok ([.literal ['é'], .hash], 4)) := by
  rfl

end CouchLoad.Template
