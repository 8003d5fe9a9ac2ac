import CouchLoad.Proofs.Outcome
import CouchLoad.Template.Scan

/-!
# Reading without fuel and faults

What a text is read as, and what is left of it, depends neither on the fuel, as long as there is a
unit of it for each character, nor on where a placeholder began. Reading is described here by one
equation for each way in which a text can begin.
-/

namespace CouchLoad.Template

/-! ### How texts begin -/

/-- A character that is neither a backslash before a hash sign nor a hash sign before a brace. -/
def IsPlain (c : Char) (rest : List Char) : Prop :=
  (c = '\\' → rest.head? ≠ some '#') ∧ (c = '#' → rest.head? ≠ some '{')

lemma isPlain_of_ne {c : Char} (hescape : c ≠ '\\') (hhash : c ≠ '#') (rest : List Char) :
    IsPlain c rest :=
  ⟨fun h => absurd h hescape, fun h => absurd h hhash⟩

/-- A text is empty, or it begins with an escape, an opening or a plain character. -/
@[elab_as_elim]
theorem front_cases {motive : List Char → Prop} (nil : motive [])
    (escape : ∀ rest, motive ('\\' :: '#' :: rest))
    (opening : ∀ inner, motive ('#' :: '{' :: inner))
    (plain : ∀ c rest, IsPlain c rest → motive (c :: rest)) (s : List Char) : motive s := by
  cases s with
  | nil => exact nil
  | cons c rest =>
    by_cases hc : IsPlain c rest
    · exact plain c rest hc
    · simp only [IsPlain, not_and_or, Classical.not_imp, ne_eq, not_not] at hc
      rcases hc with ⟨rfl, h⟩ | ⟨rfl, h⟩
      · obtain ⟨inner, rfl⟩ := List.head?_eq_some_iff.1 h
        exact escape inner
      · obtain ⟨inner, rfl⟩ := List.head?_eq_some_iff.1 h
        exact opening inner

/-- Induction on the length, along the ways in which a text can begin. What stands behind a
placeholder is shorter, but how much shorter depends on what the placeholder holds. -/
@[elab_as_elim]
theorem front_induction {motive : List Char → Prop} (nil : motive [])
    (escape : ∀ rest, (∀ t, t.length ≤ rest.length → motive t) → motive ('\\' :: '#' :: rest))
    (opening : ∀ inner, (∀ t, t.length ≤ inner.length → motive t) → motive ('#' :: '{' :: inner))
    (plain : ∀ c rest, IsPlain c rest → (∀ t, t.length ≤ rest.length → motive t) →
      motive (c :: rest)) (s : List Char) : motive s := by
  suffices h : ∀ n, ∀ s : List Char, s.length ≤ n → motive s from h s.length s (Nat.le_refl _)
  intro n
  induction n with
  | zero =>
    intro s hs
    obtain rfl := List.length_eq_zero_iff.1 (Nat.le_zero.1 hs)
    exact nil
  | succ n ih =>
    intro s
    induction s using front_cases with
    | nil => exact fun _ => nil
    | escape rest =>
      intro hs
      simp only [List.length_cons] at hs
      exact escape rest fun t ht => ih t (by omega)
    | opening inner =>
      intro hs
      simp only [List.length_cons] at hs
      exact opening inner fun t ht => ih t (by omega)
    | plain c rest hc =>
      intro hs
      simp only [List.length_cons] at hs
      exact plain c rest hc fun t ht => ih t (by omega)

/-! ### Heads -/

/-- The placeholder of a given name, by what stands behind the name. -/
def Head.ofName? (name : List Char) : List Char → Option (Head × List Char)
  | '}' :: rest => (Head.simple? name).map fun segment => (.simple segment, rest)
  | '(' :: rest =>
    if name = ['i', 'f'] then some (.condition, rest)
    else (CallKind.ofName? name).map fun kind => (.call kind, rest)
  | _ => none

lemma Head.take?_eq_ofName? (s : List Char) :
    Head.take? s = Head.ofName? (s.takeWhile isNamePart) (s.dropWhile isNamePart) := by
  unfold Head.take? Head.ofName?
  rfl

/-- The placeholders without arguments. -/
lemma Head.cases_of_simple? {name : List Char} {segment : Segment}
    (h : Head.simple? name = some segment) :
    segment = .call (.randomString none) ∧ name = CallKind.randomString.name.toList ∨
      ∃ r, segment = .reference r ∧ name = r.name.toList := by
  unfold Head.simple? at h
  split at h
  · rename_i hname
    cases h
    exact .inl ⟨rfl, hname⟩
  · obtain ⟨r, hr, rfl⟩ := Option.map_eq_some_iff.1 h
    have hname : r.name.toList = name := by simpa using List.find?_some hr
    exact .inr ⟨r, rfl, hname.symm⟩

/-- A head ends with one character behind its name. -/
lemma Head.dropWhile_of_take? {inner rest : List Char} {head : Head}
    (h : Head.take? inner = some (head, rest)) :
    ∃ c, inner.dropWhile isNamePart = c :: rest := by
  rw [Head.take?_eq_ofName?] at h
  unfold Head.ofName? at h
  split at h
  · rename_i hbrace
    obtain ⟨segment, -, hout⟩ := Option.map_eq_some_iff.1 h
    cases hout
    exact ⟨_, hbrace⟩
  · rename_i hparen
    split at h
    · cases h
      exact ⟨_, hparen⟩
    · obtain ⟨kind, -, hout⟩ := Option.map_eq_some_iff.1 h
      cases hout
      exact ⟨_, hparen⟩
  · cases h

lemma Head.cases_of_take?_eq_simple {inner rest : List Char} {segment : Segment}
    (h : Head.take? inner = some (.simple segment, rest)) :
    segment = .call (.randomString none) ∨ ∃ r, segment = .reference r := by
  rw [Head.take?_eq_ofName?] at h
  unfold Head.ofName? at h
  split at h
  · obtain ⟨segment, hsimple, hout⟩ := Option.map_eq_some_iff.1 h
    cases hout
    exact (Head.cases_of_simple? hsimple).imp And.left fun ⟨r, hr, _⟩ => ⟨r, hr⟩
  · split at h
    · cases h
    · obtain ⟨kind, -, hout⟩ := Option.map_eq_some_iff.1 h
      cases hout
  · cases h

/-! ### Calls -/

/-- The segment of a call whose arguments have been read. -/
def closeCall? (kind : CallKind) (arguments : List Segment) : Option Segment :=
  match literalText? arguments with
  | none => some (.deferred kind arguments)
  | some text => (Call.ofArguments kind text).toOption.map .call

section Calls

variable {kind : CallKind} {arguments : List Segment}

/-- A call is deferred if its arguments hold placeholders, and understood at once otherwise. -/
lemma cases_of_closeCall? {segment : Segment} (h : closeCall? kind arguments = some segment) :
    (literalText? arguments = none ∧ segment = .deferred kind arguments) ∨
      ∃ text c, literalText? arguments = some text ∧ Call.ofArguments kind text = .ok c ∧
        segment = .call c := by
  unfold closeCall? at h
  split at h
  · rename_i hnested
    cases h
    exact .inl ⟨hnested, rfl⟩
  · rename_i text htext
    cases hcall : Call.ofArguments kind text with
    | error fault =>
      rw [hcall] at h
      cases h
    | ok c =>
      rw [hcall] at h
      cases h
      exact .inr ⟨text, c, htext, hcall, rfl⟩

/-- Only a call without placeholders in its arguments can be refused at once. -/
lemma refused_of_closeCall? (h : closeCall? kind arguments = none) :
    ∃ text fault, literalText? arguments = some text ∧
      Call.ofArguments kind text = .error fault := by
  unfold closeCall? at h
  split at h
  · cases h
  · rename_i text htext
    cases hcall : Call.ofArguments kind text with
    | error fault => exact ⟨text, fault, htext, hcall⟩
    | ok c =>
      rw [hcall] at h
      cases h

end Calls

/-! ### One step of a scan -/

/-- Put something in front of the segments that have been read. -/
def inFront (f : List Segment → List Segment) (out : List Segment × List Char) :
    List Segment × List Char :=
  (f out.1, out.2)

/-- The segment of a call whose arguments have been read, or what is wrong with them. -/
def closeCall (kind : CallKind) (arguments : List Segment) : Except CallFault Segment :=
  match literalText? arguments with
  | none => .ok (.deferred kind arguments)
  | some text => (Call.ofArguments kind text).map .call

lemma toOption_closeCall (kind : CallKind) (arguments : List Segment) :
    (closeCall kind arguments).toOption = closeCall? kind arguments := by
  unfold closeCall closeCall?
  split
  · rfl
  · exact toOption_map _ _

section Steps

-- The equations of `scan` are made here once, and not by all the proofs that rewrite with them.
attribute [local simp] scan

variable (fuel : Nat) (extent : Extent) (opening : List Char) {inner rest : List Char}

lemma scan_eq_nil : scan (fuel + 1) extent opening [] =
    if extent = .text then .ok ([], []) else .error (.unterminated opening) := by
  rw [scan]

lemma scan_eq_escape : scan (fuel + 1) extent opening ('\\' :: '#' :: rest) =
    (scan fuel extent opening rest).map (inFront (.hash :: ·)) := by
  rw [scan]
  cases scan fuel extent opening rest <;> rfl

/-- An opening without a known name behind it stands for itself. -/
lemma scan_eq_unknown (h : Head.take? inner = none) :
    scan (fuel + 1) extent opening ('#' :: '{' :: inner) =
      (scan fuel extent opening inner).map
        (inFront fun segments => consChar '#' (consChar '{' segments)) := by
  rw [scan, h]
  dsimp only
  cases scan fuel extent opening inner <;> rfl

lemma scan_eq_simple {segment : Segment} (h : Head.take? inner = some (.simple segment, rest)) :
    scan (fuel + 1) extent opening ('#' :: '{' :: inner) =
      (scan fuel extent opening rest).map (inFront (segment :: ·)) := by
  rw [scan, h]
  dsimp only
  cases scan fuel extent opening rest <;> rfl

lemma scan_eq_condition (h : Head.take? inner = some (.condition, rest)) :
    scan (fuel + 1) extent opening ('#' :: '{' :: inner) =
      scan fuel (.condition 0) ('#' :: '{' :: inner) rest >>= fun out =>
        (scan fuel extent opening out.2).map (inFront (.condition out.1 :: ·)) := by
  rw [scan, h]
  dsimp only
  refine bind_congr fun out => ?_
  cases scan fuel extent opening out.2 <;> rfl

lemma scan_eq_call {kind : CallKind} (h : Head.take? inner = some (.call kind, rest)) :
    scan (fuel + 1) extent opening ('#' :: '{' :: inner) =
      scan fuel .arguments ('#' :: '{' :: inner) rest >>= fun out =>
        (closeCall kind out.1).mapError (.invalid ('#' :: '{' :: inner) out.2) >>= fun segment =>
          (scan fuel extent opening out.2).map (inFront (segment :: ·)) := by
  rw [scan, h]
  dsimp only
  congr 1
  funext out
  unfold closeCall
  cases literalText? out.1 with
  | none => cases scan fuel extent opening out.2 <;> rfl
  | some text =>
    dsimp only
    cases Call.ofArguments kind text with
    | error fault => rfl
    | ok call => cases scan fuel extent opening out.2 <;> rfl

lemma scan_eq_plain {c : Char} (hc : IsPlain c rest) :
    scan (fuel + 1) extent opening (c :: rest) =
      match extent.step c rest with
      | .finish rest => .ok ([], rest)
      | .unbalanced => .error (.invalid opening rest .unbalancedParenthesis)
      | .stay extent => (scan fuel extent opening rest).map (inFront (consChar c)) := by
  have hescape : ∀ rest', c = '\\' → rest = '#' :: rest' → False := by
    rintro rest' rfl rfl
    exact hc.1 rfl rfl
  have hhash : ∀ inner, c = '#' → rest = '{' :: inner → False := by
    rintro inner rfl rfl
    exact hc.2 rfl rfl
  rw [scan]
  · cases extent.step c rest with
    | finish => rfl
    | unbalanced => rfl
    | stay extent => cases scan fuel extent opening rest <;> rfl
  · exact hescape
  · exact hhash

lemma scan_nil : (scan (fuel + 1) extent opening []).toOption =
    if extent = .text then some ([], []) else none := by
  rw [scan_eq_nil]
  split <;> rfl

lemma scan_escape : (scan (fuel + 1) extent opening ('\\' :: '#' :: rest)).toOption =
    (scan fuel extent opening rest).toOption.map (inFront (.hash :: ·)) := by
  rw [scan_eq_escape, toOption_map]

lemma scan_unknown (h : Head.take? inner = none) :
    (scan (fuel + 1) extent opening ('#' :: '{' :: inner)).toOption =
      (scan fuel extent opening inner).toOption.map
        (inFront fun segments => consChar '#' (consChar '{' segments)) := by
  rw [scan_eq_unknown _ _ _ h, toOption_map]

lemma scan_simple {segment : Segment} (h : Head.take? inner = some (.simple segment, rest)) :
    (scan (fuel + 1) extent opening ('#' :: '{' :: inner)).toOption =
      (scan fuel extent opening rest).toOption.map (inFront (segment :: ·)) := by
  rw [scan_eq_simple _ _ _ h, toOption_map]

lemma scan_condition (h : Head.take? inner = some (.condition, rest)) :
    (scan (fuel + 1) extent opening ('#' :: '{' :: inner)).toOption =
      (scan fuel (.condition 0) ('#' :: '{' :: inner) rest).toOption.bind fun out =>
        (scan fuel extent opening out.2).toOption.map (inFront (.condition out.1 :: ·)) := by
  rw [scan_eq_condition _ _ _ h, toOption_bind]
  simp only [toOption_map]

lemma scan_call {kind : CallKind} (h : Head.take? inner = some (.call kind, rest)) :
    (scan (fuel + 1) extent opening ('#' :: '{' :: inner)).toOption =
      (scan fuel .arguments ('#' :: '{' :: inner) rest).toOption.bind fun out =>
        (closeCall? kind out.1).bind fun segment =>
          (scan fuel extent opening out.2).toOption.map (inFront (segment :: ·)) := by
  rw [scan_eq_call _ _ _ h, toOption_bind]
  congr 1
  funext out
  rw [toOption_bind, ← toOption_closeCall]
  cases closeCall kind out.1 with
  | error fault => rfl
  | ok segment => exact toOption_map _ _

lemma scan_plain {c : Char} (hc : IsPlain c rest) :
    (scan (fuel + 1) extent opening (c :: rest)).toOption =
      match extent.step c rest with
      | .finish rest => some ([], rest)
      | .unbalanced => none
      | .stay extent => (scan fuel extent opening rest).toOption.map (inFront (consChar c)) := by
  rw [scan_eq_plain _ _ _ hc]
  cases extent.step c rest with
  | finish => rfl
  | unbalanced => rfl
  | stay extent => exact toOption_map _ _

end Steps

/-! ### What is left -/

/-- What stands behind a head is a tail of the text, and a shorter one. -/
lemma Head.suffix_of_take? {inner rest : List Char} {head : Head}
    (h : Head.take? inner = some (head, rest)) :
    rest <:+ inner ∧ rest.length < inner.length := by
  have hdrop : inner.dropWhile isNamePart <:+ inner := List.dropWhile_suffix _
  obtain ⟨c, hc⟩ := Head.dropWhile_of_take? h
  rw [hc] at hdrop
  refine ⟨(List.suffix_cons c rest).trans hdrop, ?_⟩
  have hlength := hdrop.length_le
  rw [List.length_cons] at hlength
  omega

/-- What ends an extent is `)}`. -/
lemma Extent.eq_of_step_eq_finish {extent : Extent} {c : Char} {rest rest' : List Char}
    (h : extent.step c rest = .finish rest') : extent ≠ .text ∧ c = ')' ∧ rest = '}' :: rest' := by
  cases extent with
  | text => cases h
  | arguments =>
    dsimp only [step] at h
    split at h
    · cases h
      exact ⟨Extent.noConfusion, rfl, rfl⟩
    · cases h
  | condition depth =>
    dsimp only [step] at h
    split at h
    · cases h
    · split at h
      · rename_i hc
        split at h
        · cases h
        · cases h
          exact ⟨Extent.noConfusion, hc, rfl⟩
        · cases h
      · cases h

/-- Only a closing parenthesis can be unbalanced. -/
lemma Extent.eq_of_step_eq_unbalanced {extent : Extent} {c : Char} {rest : List Char}
    (h : extent.step c rest = .unbalanced) : c = ')' := by
  cases extent with
  | text => cases h
  | arguments =>
    dsimp only [step] at h
    split at h <;> cases h
  | condition depth =>
    dsimp only [step] at h
    split at h
    · cases h
    · split at h
      · assumption
      · cases h

lemma suffix_of_map {o : Option (List Segment × List Char)} {f : List Segment → List Segment}
    {s rest : List Char} {segments : List Segment}
    (ho : ∀ segments rest, o = some (segments, rest) → rest <:+ s)
    (h : o.map (inFront f) = some (segments, rest)) : rest <:+ s := by
  obtain ⟨⟨segments', rest'⟩, ho', hout⟩ := Option.map_eq_some_iff.1 h
  cases hout
  exact ho segments' rest' ho'

/-- What a scan leaves is a tail of the text. -/
lemma suffix_of_scan {fuel : Nat} {extent : Extent} {opening s rest : List Char}
    {segments : List Segment} (h : (scan fuel extent opening s).toOption = some (segments, rest)) :
    rest <:+ s := by
  induction fuel generalizing extent opening s segments rest with
  | zero => cases h
  | succ fuel ih =>
    induction s using front_cases with
    | nil =>
      rw [scan_nil] at h
      split at h
      · cases h
        exact List.suffix_rfl
      · cases h
    | escape tail =>
      rw [scan_escape] at h
      have htail : tail <:+ '\\' :: '#' :: tail := ⟨['\\', '#'], rfl⟩
      exact suffix_of_map (fun _ _ h => (ih h).trans htail) h
    | opening inner =>
      have hinner : inner <:+ '#' :: '{' :: inner := ⟨['#', '{'], rfl⟩
      cases hhead : Head.take? inner with
      | none =>
        rw [scan_unknown _ _ _ hhead] at h
        exact suffix_of_map (fun _ _ h => (ih h).trans hinner) h
      | some out =>
        obtain ⟨head, tail⟩ := out
        have htail := (Head.suffix_of_take? hhead).1.trans hinner
        cases head with
        | simple segment =>
          rw [scan_simple _ _ _ hhead] at h
          exact suffix_of_map (fun _ _ h => (ih h).trans htail) h
        | condition =>
          rw [scan_condition _ _ _ hhead] at h
          obtain ⟨out, hsource, h⟩ := Option.bind_eq_some_iff.1 h
          exact suffix_of_map (fun _ _ h => ((ih h).trans (ih hsource)).trans htail) h
        | call kind =>
          rw [scan_call _ _ _ hhead] at h
          obtain ⟨out, harguments, h⟩ := Option.bind_eq_some_iff.1 h
          obtain ⟨segment, -, h⟩ := Option.bind_eq_some_iff.1 h
          exact suffix_of_map (fun _ _ h => ((ih h).trans (ih harguments)).trans htail) h
    | plain c tail hc =>
      rw [scan_plain _ _ _ hc] at h
      have htail := List.suffix_cons c tail
      cases hstep : extent.step c tail with
      | finish tail' =>
        rw [hstep] at h
        cases h
        obtain ⟨-, -, rfl⟩ := Extent.eq_of_step_eq_finish hstep
        exact (List.suffix_cons '}' _).trans htail
      | unbalanced =>
        rw [hstep] at h
        cases h
      | stay extent' =>
        rw [hstep] at h
        exact suffix_of_map (fun _ _ h => (ih h).trans htail) h

/-! ### Fuel -/

/-- Two scans with enough fuel read the same, wherever the placeholder began. -/
lemma toOption_scan (fuel fuel' : Nat) (extent : Extent) (opening opening' : List Char)
    {s : List Char} (h : s.length < fuel) (h' : s.length < fuel') :
    (scan fuel extent opening s).toOption = (scan fuel' extent opening' s).toOption := by
  induction fuel generalizing fuel' extent opening opening' s with
  | zero => cases h
  | succ fuel ih =>
    obtain ⟨fuel', rfl⟩ := Nat.exists_eq_succ_of_ne_zero (Nat.ne_zero_of_lt h')
    induction s using front_cases with
    | nil => rw [scan_nil, scan_nil]
    | escape tail =>
      simp only [List.length_cons] at h h'
      rw [scan_escape, scan_escape, ih fuel' extent opening opening' (by omega) (by omega)]
    | opening inner =>
      simp only [List.length_cons] at h h'
      cases hhead : Head.take? inner with
      | none =>
        rw [scan_unknown _ _ _ hhead, scan_unknown _ _ _ hhead,
          ih fuel' extent opening opening' (by omega) (by omega)]
      | some out =>
        obtain ⟨head, tail⟩ := out
        have htail := (Head.suffix_of_take? hhead).2
        -- behind the placeholder there is even less to read
        have hbehind {out : List Segment × List Char} {extent' : Extent} {opening'' : List Char}
            (hout : (scan fuel' extent' opening'' tail).toOption = some out) :
            (scan fuel extent opening out.2).toOption =
              (scan fuel' extent opening' out.2).toOption := by
          have hlength := (suffix_of_scan hout).length_le
          exact ih fuel' extent opening opening' (by omega) (by omega)
        cases head with
        | simple segment =>
          rw [scan_simple _ _ _ hhead, scan_simple _ _ _ hhead,
            ih fuel' extent opening opening' (by omega) (by omega)]
        | condition =>
          rw [scan_condition _ _ _ hhead, scan_condition _ _ _ hhead,
            ih fuel' (.condition 0) _ _ (by omega) (by omega)]
          apply Option.bind_congr
          intro out hout
          rw [hbehind hout]
        | call kind =>
          rw [scan_call _ _ _ hhead, scan_call _ _ _ hhead,
            ih fuel' .arguments _ _ (by omega) (by omega)]
          apply Option.bind_congr
          intro out hout
          rw [hbehind hout]
    | plain c tail hc =>
      simp only [List.length_cons] at h h'
      rw [scan_plain _ _ _ hc, scan_plain _ _ _ hc]
      cases extent.step c tail with
      | finish => rfl
      | unbalanced => rfl
      | stay extent =>
        simp only
        rw [ih fuel' extent opening opening' (by omega) (by omega)]

/-! ### Reading -/

/-- The segments up to the end of an extent, and the text behind it. -/
def read? (extent : Extent) (s : List Char) : Option (List Segment × List Char) :=
  (scan (s.length + 1) extent s s).toOption

section Reading

variable (extent : Extent) {inner rest : List Char}

lemma toOption_scan_eq_read? {fuel : Nat} {opening s : List Char} (h : s.length < fuel) :
    (scan fuel extent opening s).toOption = read? extent s :=
  toOption_scan fuel _ extent _ _ h (Nat.lt_succ_self _)

lemma read?_nil : read? extent [] = if extent = .text then some ([], []) else none :=
  scan_nil ..

lemma read?_escape : read? extent ('\\' :: '#' :: rest) =
    (read? extent rest).map (inFront (.hash :: ·)) := by
  have hfuel : rest.length < ('\\' :: '#' :: rest).length := by
    simp only [List.length_cons]
    omega
  rw [read?, scan_escape, toOption_scan_eq_read? extent hfuel]

lemma read?_unknown (h : Head.take? inner = none) :
    read? extent ('#' :: '{' :: inner) =
      (read? extent inner).map (inFront fun segments => consChar '#' (consChar '{' segments)) := by
  have hfuel : inner.length < ('#' :: '{' :: inner).length := by
    simp only [List.length_cons]
    omega
  rw [read?, scan_unknown _ _ _ h, toOption_scan_eq_read? extent hfuel]

lemma read?_simple {segment : Segment} (h : Head.take? inner = some (.simple segment, rest)) :
    read? extent ('#' :: '{' :: inner) = (read? extent rest).map (inFront (segment :: ·)) := by
  have hrest := (Head.suffix_of_take? h).2
  have hfuel : rest.length < ('#' :: '{' :: inner).length := by
    simp only [List.length_cons]
    omega
  rw [read?, scan_simple _ _ _ h, toOption_scan_eq_read? extent hfuel]

/-- What an extent leaves is a tail of the text. -/
lemma suffix_of_read? {s : List Char} {segments : List Segment}
    (h : read? extent s = some (segments, rest)) : rest <:+ s :=
  suffix_of_scan h

lemma read?_condition (h : Head.take? inner = some (.condition, rest)) :
    read? extent ('#' :: '{' :: inner) = (read? (.condition 0) rest).bind fun out =>
      (read? extent out.2).map (inFront (.condition out.1 :: ·)) := by
  have hrest := (Head.suffix_of_take? h).2
  have hfuel : rest.length < ('#' :: '{' :: inner).length := by
    simp only [List.length_cons]
    omega
  rw [read?, scan_condition _ _ _ h, toOption_scan_eq_read? _ hfuel]
  apply Option.bind_congr
  intro out hout
  have hlength := (suffix_of_read? _ hout).length_le
  rw [toOption_scan_eq_read? extent (Nat.lt_of_le_of_lt hlength hfuel)]

lemma read?_call {kind : CallKind} (h : Head.take? inner = some (.call kind, rest)) :
    read? extent ('#' :: '{' :: inner) = (read? .arguments rest).bind fun out =>
      (closeCall? kind out.1).bind fun segment =>
        (read? extent out.2).map (inFront (segment :: ·)) := by
  have hrest := (Head.suffix_of_take? h).2
  have hfuel : rest.length < ('#' :: '{' :: inner).length := by
    simp only [List.length_cons]
    omega
  rw [read?, scan_call _ _ _ h, toOption_scan_eq_read? _ hfuel]
  apply Option.bind_congr
  intro out hout
  have hlength := (suffix_of_read? _ hout).length_le
  rw [toOption_scan_eq_read? extent (Nat.lt_of_le_of_lt hlength hfuel)]

lemma read?_plain {c : Char} (hc : IsPlain c rest) :
    read? extent (c :: rest) =
      match extent.step c rest with
      | .finish rest => some ([], rest)
      | .unbalanced => none
      | .stay extent => (read? extent rest).map (inFront (consChar c)) := by
  have hfuel : rest.length < (c :: rest).length := by
    simp only [List.length_cons]
    omega
  rw [read?, scan_plain _ _ _ hc]
  cases extent.step c rest with
  | finish => rfl
  | unbalanced => rfl
  | stay extent =>
    simp only
    rw [toOption_scan_eq_read? extent hfuel]

end Reading

/-- How an extent is read, step by step. -/
inductive Reads : Extent → List Char → List Segment → List Char → Prop where
  | nil : Reads .text [] [] []
  | finish {extent : Extent} (hextent : extent ≠ .text) (rest : List Char) :
      Reads extent (')' :: '}' :: rest) [] rest
  | escape {extent : Extent} {s rest : List Char} {segments : List Segment}
      (h : Reads extent s segments rest) : Reads extent ('\\' :: '#' :: s) (.hash :: segments) rest
  | plain {extent extent' : Extent} {c : Char} {s rest : List Char} {segments : List Segment}
      (hc : IsPlain c s) (hstep : extent.step c s = .stay extent')
      (h : Reads extent' s segments rest) : Reads extent (c :: s) (consChar c segments) rest
  | unknown {extent : Extent} {inner rest : List Char} {segments : List Segment}
      (hhead : Head.take? inner = none) (h : Reads extent inner segments rest) :
      Reads extent ('#' :: '{' :: inner) (consChar '#' (consChar '{' segments)) rest
  | simple {extent : Extent} {inner s rest : List Char} {segment : Segment}
      {segments : List Segment} (hhead : Head.take? inner = some (.simple segment, s))
      (h : Reads extent s segments rest) :
      Reads extent ('#' :: '{' :: inner) (segment :: segments) rest
  | condition {extent : Extent} {inner s s' rest : List Char} {source segments : List Segment}
      (hhead : Head.take? inner = some (.condition, s))
      (hsource : Reads (.condition 0) s source s') (h : Reads extent s' segments rest) :
      Reads extent ('#' :: '{' :: inner) (.condition source :: segments) rest
  | call {extent : Extent} {inner s s' rest : List Char} {kind : CallKind} {segment : Segment}
      {arguments segments : List Segment} (hhead : Head.take? inner = some (.call kind, s))
      (harguments : Reads .arguments s arguments s')
      (hclose : closeCall? kind arguments = some segment) (h : Reads extent s' segments rest) :
      Reads extent ('#' :: '{' :: inner) (segment :: segments) rest

lemma Reads.map {extent extent' : Extent} {s s' rest : List Char} {segments : List Segment}
    {f : List Segment → List Segment}
    (hf : ∀ segments, Reads extent' s' segments rest → Reads extent s (f segments) rest)
    (hread : ∀ segments rest, read? extent' s' = some (segments, rest) →
      Reads extent' s' segments rest)
    (h : (read? extent' s').map (inFront f) = some (segments, rest)) :
    Reads extent s segments rest := by
  obtain ⟨⟨segments', rest'⟩, hread', hout⟩ := Option.map_eq_some_iff.1 h
  cases hout
  exact hf segments' (hread _ _ hread')

lemma reads_of_read? {extent : Extent} {s rest : List Char} {segments : List Segment}
    (h : read? extent s = some (segments, rest)) : Reads extent s segments rest := by
  induction s using front_induction generalizing extent segments rest with
  | nil =>
    rw [read?_nil] at h
    split at h
    · rename_i hextent
      cases hextent
      cases h
      exact .nil
    · cases h
  | escape s ih =>
    rw [read?_escape] at h
    exact .map (fun _ => .escape) (fun _ _ => ih s (Nat.le_refl _)) h
  | plain c s hc ih =>
    rw [read?_plain extent hc] at h
    cases hstep : extent.step c s with
    | finish rest =>
      obtain ⟨hextent, rfl, rfl⟩ := Extent.eq_of_step_eq_finish hstep
      rw [hstep] at h
      cases h
      exact .finish hextent _
    | unbalanced =>
      rw [hstep] at h
      cases h
    | stay extent' =>
      rw [hstep] at h
      exact .map (fun _ => .plain hc hstep) (fun _ _ => ih s (Nat.le_refl _)) h
  | opening inner ih =>
    cases htake : Head.take? inner with
    | none =>
      rw [read?_unknown extent htake] at h
      exact .map (fun _ => .unknown htake) (fun _ _ => ih inner (Nat.le_refl _)) h
    | some out =>
      obtain ⟨head, s⟩ := out
      have hrest := (Head.suffix_of_take? htake).1
      have hinside {extent' : Extent} {segments : List Segment} {rest : List Char} :
          read? extent' s = some (segments, rest) → Reads extent' s segments rest :=
        ih s hrest.length_le
      have hbehind {extent' : Extent} {inside : List Segment} {s' : List Char}
          (hread : read? extent' s = some (inside, s')) (segments : List Segment)
          (rest : List Char) : read? extent s' = some (segments, rest) →
            Reads extent s' segments rest :=
        ih s' ((suffix_of_read? extent' hread).trans hrest).length_le
      cases head with
      | simple segment =>
        rw [read?_simple extent htake] at h
        exact .map (fun _ => .simple htake) (fun _ _ => hinside) h
      | condition =>
        rw [read?_condition extent htake] at h
        obtain ⟨⟨source, s'⟩, hsource, h⟩ := Option.bind_eq_some_iff.1 h
        exact .map (fun _ => .condition htake (hinside hsource)) (hbehind hsource) h
      | call kind =>
        rw [read?_call extent htake] at h
        obtain ⟨⟨arguments, s'⟩, harguments, h⟩ := Option.bind_eq_some_iff.1 h
        obtain ⟨segment, hclose, h⟩ := Option.bind_eq_some_iff.1 h
        exact .map (fun _ => .call htake (hinside harguments) hclose) (hbehind harguments) h

/-- The segments of a text are what is read up to its end. -/
lemma toOption_tokenize (text : List Char) :
    (tokenize text).toOption = (read? .text text).map Prod.fst := by
  unfold tokenize read?
  cases scan (text.length + 1) .text text text <;> rfl

lemma tokenize_eq_ok_iff {text : List Char} {segments : List Segment} :
    tokenize text = .ok segments ↔ (read? .text text).map Prod.fst = some segments := by
  rw [← toOption_tokenize]
  cases tokenize text with
  | error e => simp [Except.toOption]
  | ok segments' => simp [Except.toOption]

/-! ### Text as it stands -/

/-- A text as one segment, if there is any text. -/
def verbatim : List Char → List Segment
  | [] => []
  | text => [.literal text]

lemma verbatim_of_ne_nil {text : List Char} (h : text ≠ []) : verbatim text = [.literal text] := by
  cases text with
  | nil => exact absurd rfl h
  | cons c text => rfl

@[simp] lemma consChar_verbatim (c : Char) (text : List Char) :
    consChar c (verbatim text) = verbatim (c :: text) := by
  cases text <;> rfl

lemma verbatim_injective : Function.Injective verbatim := by
  intro s t h
  cases s <;> cases t <;> cases h <;> rfl

/-- Without hash signs there is no escape and no placeholder. -/
lemma isPlain_of_notMem {c : Char} {rest : List Char} (h : '#' ∉ c :: rest) : IsPlain c rest := by
  rw [List.mem_cons, not_or] at h
  refine ⟨fun _ hhead => h.2 (List.mem_of_mem_head? hhead), fun hc => absurd hc.symm h.1⟩

lemma read?_text_of_notMem {s : List Char} (h : '#' ∉ s) :
    read? .text s = some (verbatim s, []) := by
  induction s with
  | nil => rw [read?_nil, if_pos rfl, verbatim]
  | cons c rest ih =>
    rw [read?_plain _ (isPlain_of_notMem h)]
    dsimp only [Extent.step]
    rw [ih fun hin => h (List.mem_cons_of_mem c hin), Option.map_some, inFront, consChar_verbatim]

end CouchLoad.Template
