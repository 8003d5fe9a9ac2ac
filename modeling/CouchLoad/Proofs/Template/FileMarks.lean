import CouchLoad.Proofs.Template.Escapes
import CouchLoad.Proofs.Template.Spans

/-!
# Where the mark of a file ends

A file placeholder ends at its own `)}` when a template is read, and is resolved to a mark. The mark
is found again in the resolved data by what these begin and end with. So data that are one file
placeholder are read as they were written, and so are data that begin with something else; but where
something stands behind the first placeholder and ends in `)}`, all of it is taken for the path.
-/

namespace CouchLoad.Template

open Entropy Text

/-! ### Marks in data -/

/-- What the mark of a file begins with. -/
def fileOpening : List Char := ['#', '{', 'f', 'i', 'l', 'e', '(']

/-- What the mark of a file ends with. -/
def fileEnd : List Char := [')', '}']

lemma fileMark_eq (path : List Char) : fileMark path = fileOpening ++ path ++ fileEnd := rfl

lemma dropSuffix?_eq_some_iff {s tail front : List Char} :
    Attachment.dropSuffix? s tail = some front ↔ s = front ++ tail := by
  unfold Attachment.dropSuffix?
  rw [Option.map_eq_some_iff]
  constructor
  · rintro ⟨rest, hrest, rfl⟩
    have hwhole := List.isPrefixOf?_eq_some_iff_append_eq.1 hrest
    rw [← List.reverse_reverse s, ← hwhole]
    simp
  · rintro rfl
    refine ⟨front.reverse, ?_, List.reverse_reverse front⟩
    rw [List.isPrefixOf?_eq_some_iff_append_eq, List.reverse_append]

/-- Data are read as a file just if they are a mark apart from blanks, and the path is not blank. -/
lemma fileReference?_eq_some_iff {data path : List Char} :
    Attachment.fileReference? data = some path ↔
      ∃ inner, trim data = fileMark inner ∧ trim inner = path ∧ path ≠ [] := by
  unfold Attachment.fileReference?
  simp only [Option.bind_eq_bind, Option.bind_eq_some_iff, List.isPrefixOf?_eq_some_iff_append_eq,
    dropSuffix?_eq_some_iff]
  constructor
  · rintro ⟨body, hbody, inner, rfl, hpath⟩
    split at hpath
    · cases hpath
    · rename_i hne
      cases hpath
      exact ⟨inner, by rw [← hbody, fileMark]; rfl, rfl, by simpa using hne⟩
  · rintro ⟨inner, hdata, rfl, hne⟩
    refine ⟨inner ++ [')', '}'], by rw [hdata, fileMark]; rfl, inner, rfl, ?_⟩
    rw [if_neg (by simpa using hne)]

section Marks

variable {blanks path rest : List Char}

/-- A mark at the beginning of data stays when blanks are dropped. -/
lemma trim_fileMark_append (hblanks : ∀ c ∈ blanks, isBlank c) (path rest : List Char) :
    trim (blanks ++ (fileMark path ++ rest)) = fileMark path ++ trimEnd rest := by
  have hstart : trimStart (fileMark path ++ rest) = fileMark path ++ rest :=
    trimStart_of_head (by simp [fileMark]; decide)
  have hparts (s : List Char) :
      fileMark path ++ s = (fileOpening ++ path ++ [')']) ++ '}' :: s := by
    simp [fileMark, fileOpening]
  rw [trim, trimStart_append hblanks, hstart, hparts, trimEnd_append (by decide), ← hparts]

/-- A mark with blanks around it is read as its path. -/
lemma fileReference?_of_blank (hblanks : ∀ c ∈ blanks, isBlank c) (hpath : trim path = path)
    (hne : path ≠ []) (hrest : trimEnd rest = []) :
    Attachment.fileReference? (blanks ++ (fileMark path ++ rest)) = some path := by
  rw [fileReference?_eq_some_iff, trim_fileMark_append hblanks, hrest, List.append_nil]
  exact ⟨path, rfl, hpath, hne⟩

/-- Where the text behind a mark ends as a mark does, it is taken for the end of that mark. -/
lemma fileReference?_of_fileEnd (hblanks : ∀ c ∈ blanks, isBlank c) (hpath : trim path = path)
    (hne : path ≠ []) {more : List Char} (hrest : trimEnd rest = more ++ fileEnd) :
    Attachment.fileReference? (blanks ++ (fileMark path ++ rest)) =
      some (trim (path ++ fileEnd ++ more)) := by
  rw [fileReference?_eq_some_iff, trim_fileMark_append hblanks, hrest]
  refine ⟨path ++ fileEnd ++ more, by simp [fileMark_eq], rfl, fun hblank => ?_⟩
  have hall := trim_eq_nil_iff.1 hblank
  rw [← hpath, Ne, trim_eq_nil_iff] at hne
  exact hne fun c hc => hall c (by simp [hc])

/-- Any other text behind a mark keeps it from being read. -/
lemma fileReference?_of_other (hblanks : ∀ c ∈ blanks, isBlank c) (hrest : trimEnd rest ≠ [])
    (hend : ¬ fileEnd <:+ trimEnd rest) :
    Attachment.fileReference? (blanks ++ (fileMark path ++ rest)) = none := by
  rw [Option.eq_none_iff_forall_ne_some]
  intro found hfound
  obtain ⟨inner, hinner, -⟩ := fileReference?_eq_some_iff.1 hfound
  rw [trim_fileMark_append hblanks, fileMark_eq, fileMark_eq, List.append_assoc, List.append_assoc,
    List.append_assoc, List.append_cancel_left_eq, ← List.append_assoc] at hinner
  have hsuffix : trimEnd rest <:+ inner ++ fileEnd := ⟨_, hinner⟩
  rcases List.suffix_or_suffix_of_suffix (List.suffix_append inner fileEnd) hsuffix with h | h
  · exact hend h
  · -- what is left is one brace, and then two braces stand at the end
    have hbrace : trimEnd rest = ['}'] := by
      rcases List.suffix_cons_iff.1 h with h | h
      · exact absurd (h ▸ List.suffix_rfl) hend
      · rcases List.suffix_cons_iff.1 h with h | h
        · exact h
        · exact absurd (List.suffix_nil.1 h) hrest
    have hlast := congrArg (fun s => s.reverse.take 2) hinner
    rw [hbrace] at hlast
    simp [fileEnd] at hlast

end Marks

/-! ### Segments of data -/

/-- Blank text. -/
def Segment.IsGap : Segment → Prop
  | .literal text => ∀ c ∈ text, isBlank c
  | _ => False

/-- A placeholder for a file. -/
def Segment.IsFile : Segment → Prop
  | .call (.file _) | .deferred .file _ => True
  | _ => False

/-- The path of a placeholder for a file, without the blanks around it. -/
def Segment.filePath (ctx : Context) : Segment → Draft (List Char)
  | .call (.file path) => pure (trim path)
  | .deferred .file arguments => trim <$> draftAll ctx arguments
  | _ => failure

/-- Text without escapes, and placeholders for files. -/
def IsData (segments : List Segment) : Prop :=
  ∀ segment ∈ segments, (∃ text, segment = .literal text) ∨ segment.IsFile

/-- One placeholder for a file with a path, with nothing but blank text around it. -/
def IsSole (ctx : Context) (s : Source) (segments : List Segment) (path : List Char) : Prop :=
  ∃ front file behind, segments = front ++ file :: behind ∧ (∀ gap ∈ front, gap.IsGap) ∧
    file.IsFile ∧ (∀ gap ∈ behind, gap.IsGap) ∧ ∃ t, file.filePath ctx s = some (path, t)

/-- Nothing but blank text, or text that is not blank in front of whatever else there is. -/
def BeginsWithText (segments : List Segment) : Prop :=
  (∀ gap ∈ segments, gap.IsGap) ∨
    ∃ text behind, segments = .literal text :: behind ∧ ¬ (Segment.literal text).IsGap ∧
      ∀ file ∈ behind.head?, file.IsFile

/-- A placeholder for a file with nothing but blank text in front, and text behind it that ends,
apart from blanks, as the mark of a file does. -/
def Overruns (ctx : Context) (s : Source) (segments : List Segment) (path more : List Char) :
    Prop :=
  ∃ front file behind, segments = front ++ file :: behind ∧ (∀ gap ∈ front, gap.IsGap) ∧
    file.IsFile ∧ ∃ t rest u, file.filePath ctx s = some (path, t) ∧
      draftAll ctx behind t = some (rest, u) ∧ trimEnd rest = more ++ fileEnd

lemma Segment.IsFile.not_isGap {file : Segment} (h : file.IsFile) : ¬ file.IsGap := by
  cases file with
  | literal text => exact absurd h id
  | _ => exact id

lemma Segment.IsFile.ne_literal {file : Segment} (h : file.IsFile) (text : List Char) :
    file ≠ .literal text := by
  rintro rfl
  exact h

/-- Only one placeholder can be the first. -/
lemma first_unique {front front' behind behind' : List Segment} {file file' : Segment}
    (h : front ++ file :: behind = front' ++ file' :: behind') (hfront : ∀ gap ∈ front, gap.IsGap)
    (hfront' : ∀ gap ∈ front', gap.IsGap) (hfile : file.IsFile) (hfile' : file'.IsFile) :
    file = file' ∧ behind = behind' := by
  induction front generalizing front' with
  | nil =>
    cases front' with
    | nil => exact List.cons.inj h
    | cons gap front' =>
      obtain ⟨rfl, -⟩ := List.cons.inj h
      exact absurd (hfront' file List.mem_cons_self) hfile.not_isGap
  | cons gap front ih =>
    cases front' with
    | nil =>
      obtain ⟨rfl, -⟩ := List.cons.inj h
      exact absurd (hfront gap List.mem_cons_self) hfile'.not_isGap
    | cons gap' front' =>
      exact ih (List.cons.inj h).2 (List.forall_mem_cons.1 hfront).2
        (List.forall_mem_cons.1 hfront').2

/-! ### Data that are resolved -/

variable {ctx : Context} {segments : List Segment} {s t : Source}

lemma draftAll_of_gaps (ctx : Context) (h : ∀ gap ∈ segments, gap.IsGap) :
    ∃ blanks, (∀ c ∈ blanks, isBlank c) ∧ draftAll ctx segments = pure blanks := by
  induction segments with
  | nil => exact ⟨[], by simp, draftAll_nil⟩
  | cons gap gaps ih =>
    obtain ⟨hgap, hgaps⟩ := List.forall_mem_cons.1 h
    obtain ⟨blanks, hblanks, hdraft⟩ := ih hgaps
    cases gap with
    | literal text =>
      refine ⟨text ++ blanks, fun c hc => (List.mem_append.1 hc).elim (hgap c) (hblanks c), ?_⟩
      rw [draftAll_cons, draft_literal, hdraft]
      rfl
    | _ => exact absurd hgap id

lemma eq_of_ofArguments_file {text : List Char} {c : Call}
    (h : Call.ofArguments .file text = .ok c) : c = .file (trim text) ∧ trim text ≠ [] := by
  unfold Call.ofArguments at h
  dsimp only at h
  split at h
  · cases h
  · rename_i hne
    cases h
    exact ⟨rfl, by simpa using hne⟩

lemma kind_of_ofArguments_eq_file {text path : List Char} {kind : CallKind}
    (h : Call.ofArguments kind text = .ok (.file path)) : kind = .file := by
  unfold Call.ofArguments at h
  cases kind with
  | file => rfl
  | randomInt =>
    dsimp only at h
    split at h
    · obtain ⟨low, -, h⟩ := bind_eq_ok_iff.1 h
      obtain ⟨high, -, h⟩ := bind_eq_ok_iff.1 h
      split at h <;> cases h
    · cases h
  | randomString =>
    dsimp only at h
    split at h <;> cases h
  | pick => cases h

/-- A placeholder for a file is resolved to the mark of its path. -/
lemma Segment.IsFile.draft_eq {file : Segment} {span text : List Char} (h : file.IsFile)
    (hcovers : Covers file span) (hdraft : file.draft ctx s = some (text, t)) :
    ∃ path, file.filePath ctx s = some (path, t) ∧ text = fileMark path ∧ trim path = path ∧
      path ≠ [] := by
  cases hcovers with
  | @call kind arguments spans plain c harguments hplain hcall =>
    cases c with
    | file path =>
      obtain rfl := kind_of_ofArguments_eq_file hcall
      obtain ⟨hpath, hne⟩ := eq_of_ofArguments_file hcall
      cases hpath
      rw [draft_call] at hdraft
      cases hdraft
      refine ⟨trim plain, ?_, rfl, trim_trim plain, hne⟩
      rw [filePath, trim_trim]
      rfl
    | _ => exact absurd h id
  | @deferred kind arguments spans harguments hnested =>
    cases kind with
    | file =>
      rw [draft_deferred] at hdraft
      obtain ⟨raw, u, hraw, hdraft⟩ := bind_eq_some_iff.1 hdraft
      have hpath : (deferred .file arguments).filePath ctx s = some (trim raw, u) := by
        rw [filePath, map_eq_pure_bind, bind_eq_some_iff]
        exact ⟨raw, u, hraw, rfl⟩
      cases hcall : Call.ofArguments .file raw with
      | error fault =>
        rw [draft_of_ofArguments_eq_error hcall] at hdraft
        cases hdraft
      | ok c =>
        obtain ⟨rfl, hne⟩ := eq_of_ofArguments_file hcall
        rw [draft_of_ofArguments hcall] at hdraft
        cases hdraft
        exact ⟨trim raw, hpath, rfl, trim_trim raw, hne⟩
    | _ => exact absurd h id
  | _ => exact absurd h id

/-- Placeholders for files leave no blank text. -/
lemma gaps_of_draftAll {text : List Char} (h : IsData segments)
    (hcovers : ∀ segment ∈ segments, ∃ span, Covers segment span)
    (hdraft : draftAll ctx segments s = some (text, t)) (hblank : ∀ c ∈ text, isBlank c) :
    ∀ gap ∈ segments, gap.IsGap := by
  induction segments generalizing s text with
  | nil => exact fun _ h => nomatch h
  | cons segment segments ih =>
    rw [draftAll_cons] at hdraft
    obtain ⟨first, u, hfirst, hdraft⟩ := bind_eq_some_iff.1 hdraft
    obtain ⟨rest, v, hrest, hdraft⟩ := bind_eq_some_iff.1 hdraft
    cases hdraft
    obtain ⟨hsegment, hsegments⟩ := List.forall_mem_cons.1 h
    obtain ⟨⟨span, hspan⟩, hspans⟩ := List.forall_mem_cons.1 hcovers
    refine List.forall_mem_cons.2 ⟨?_, ih hsegments hspans hrest fun c hc =>
      hblank c (List.mem_append_right _ hc)⟩
    rcases hsegment with ⟨text, rfl⟩ | hfile
    · rw [draft_literal] at hfirst
      cases hfirst
      exact fun c hc => hblank c (List.mem_append_left _ hc)
    · obtain ⟨path, -, rfl, -⟩ := hfile.draft_eq hspan hfirst
      have hhash : isBlank '#' = true := hblank '#' (by simp [fileMark])
      exact absurd hhash (by decide)

/-! ### Text at the beginning -/

lemma consChar_verbatim_append {segment : Segment} (h : ∀ text, segment ≠ .literal text) (c : Char)
    (text : List Char) (behind : List Segment) :
    consChar c (verbatim text ++ segment :: behind) =
      verbatim (c :: text) ++ segment :: behind := by
  cases text with
  | nil =>
    cases segment with
    | literal text => exact absurd rfl (h text)
    | _ => rfl
  | cons d text => rfl

/-- Behind blanks a placeholder is read. -/
lemma read?_opening {blanks inner rest tail : List Char} {kind : CallKind}
    (hblanks : ∀ c ∈ blanks, isBlank c) (hhead : Head.take? inner = some (.call kind, rest))
    (h : read? .text (blanks ++ '#' :: '{' :: inner) = some (segments, tail)) :
    ∃ segment behind, segments = verbatim blanks ++ segment :: behind ∧
      ∀ text, segment ≠ .literal text := by
  induction blanks generalizing segments tail with
  | nil =>
    rw [List.nil_append, read?_call _ hhead] at h
    obtain ⟨out, -, h⟩ := Option.bind_eq_some_iff.1 h
    obtain ⟨segment, hclose, h⟩ := Option.bind_eq_some_iff.1 h
    obtain ⟨⟨behind, _⟩, -, hout⟩ := Option.map_eq_some_iff.1 h
    cases hout
    refine ⟨segment, behind, rfl, ?_⟩
    rcases cases_of_closeCall? hclose with ⟨-, rfl⟩ | ⟨text, c, -, -, rfl⟩
    · exact fun _ => Segment.noConfusion
    · exact fun _ => Segment.noConfusion
  | cons c blanks ih =>
    obtain ⟨hc, hblanks⟩ := List.forall_mem_cons.1 hblanks
    have hplain : IsPlain c (blanks ++ '#' :: '{' :: inner) := by
      refine isPlain_of_ne ?_ ?_ _
      · rintro rfl
        exact absurd hc (by decide)
      · rintro rfl
        exact absurd hc (by decide)
    rw [List.cons_append, read?_plain _ hplain] at h
    obtain ⟨⟨made, _⟩, hread, hout⟩ := Option.map_eq_some_iff.1 h
    cases hout
    obtain ⟨segment, behind, rfl, hliteral⟩ := ih hblanks hread
    exact ⟨segment, behind, consChar_verbatim_append hliteral c blanks behind, hliteral⟩

/-- What a text is read as: spans of it, with the text between placeholders in one piece. -/
lemma covers_of_tokenize {text : List Char} (h : tokenize text = .ok segments) :
    ∃ spans, List.Forall₂ Covers segments spans ∧ text = spans.flatten ∧ Merged segments := by
  obtain ⟨⟨_, rest⟩, hread, rfl⟩ := Option.map_eq_some_iff.1 (tokenize_eq_ok_iff.1 h)
  have hreads := reads_of_read? hread
  obtain ⟨spans, hspans, htext⟩ := hreads.covers
  rw [hreads.eq_nil, Extent.closing, List.append_nil, List.append_nil] at htext
  exact ⟨spans, hspans, htext, hreads.mergedAll.1⟩

lemma exists_covers {spans : List (List Char)} (h : List.Forall₂ Covers segments spans) :
    ∀ segment ∈ segments, ∃ span, Covers segment span := by
  induction h with
  | nil => simp
  | cons hfirst _ ih => exact List.forall_mem_cons.2 ⟨⟨_, hfirst⟩, ih⟩

/-- Text that begins a mark of a file holds all of what the mark begins with, where only another
mark can follow. -/
lemma fileOpening_prefix_of_append {text rest : List Char} (hne : text ≠ [])
    (hrest : rest.head? = none ∨ rest.head? = some '#') (h : fileOpening <+: text ++ rest) :
    fileOpening <+: text := by
  rcases List.prefix_or_prefix_of_prefix h (List.prefix_append text rest)
    with hwhole | ⟨more, hmore⟩
  · exact hwhole
  · cases more with
    | nil => exact ⟨[], by rw [← hmore, List.append_nil, List.append_nil]⟩
    | cons c more =>
      rw [← hmore, List.prefix_append_right_inj] at h
      obtain ⟨behind, rfl⟩ := h
      obtain rfl : c = '#' := by simpa using hrest
      -- the second mark would begin inside of what the first one begins with
      obtain ⟨d, text, rfl⟩ := List.exists_cons_of_ne_nil hne
      have hmem : '#' ∈ fileOpening.tail := by
        rw [← hmore]
        simp
      exact absurd hmem (by decide)

/-- A literal does not begin with the mark of a file: this would have been read as a placeholder. -/
lemma not_fileOpening_prefix {text front blanks inner : List Char} {behind : List Segment}
    (h : tokenize text = .ok (.literal front :: behind)) (hblanks : ∀ c ∈ blanks, isBlank c)
    (hfront : front = blanks ++ inner) : ¬ fileOpening <+: inner := by
  rintro ⟨rest, rfl⟩
  obtain ⟨spans, hspans, htext, -⟩ := covers_of_tokenize h
  cases hspans with
  | cons hfirst hspans =>
    rename_i first spans
    cases hfirst
    obtain ⟨⟨made, tail⟩, hread, hmade⟩ := Option.map_eq_some_iff.1 (tokenize_eq_ok_iff.1 h)
    have hopening : text = blanks ++ '#' :: '{' ::
        (['f', 'i', 'l', 'e', '('] ++ (rest ++ spans.flatten)) := by
      rw [htext, hfront]
      simp [fileOpening]
    rw [hopening] at hread
    obtain ⟨segment, behind', hsegments, hliteral⟩ := read?_opening hblanks rfl hread
    rw [hsegments] at hmade
    cases blanks with
    | nil => exact hliteral _ (List.cons.inj hmade).1
    | cons c blanks =>
      have hlength := congrArg List.length (Segment.literal.inj (List.cons.inj hmade).1)
      simp [hfront, fileOpening] at hlength

/-- Data that begin with text do not begin as a file does: what is resolved behind the text can only
begin a mark of its own. -/
lemma not_prefix_of_literal {text front : List Char} {behind : List Segment}
    (h : tokenize text = .ok (.literal front :: behind)) (hgap : ¬ (Segment.literal front).IsGap)
    {rest : List Char} (hrest : rest.head? = none ∨ rest.head? = some '#') :
    ¬ fileOpening <+: trimStart (front ++ rest) := by
  obtain ⟨blanks, inner, hfront, hblanks, hinner⟩ := exists_span isBlank front
  have hne : inner ≠ [] := by
    rintro rfl
    exact hgap (by simpa [Segment.IsGap, hfront] using hblanks)
  have htrim : trimStart (front ++ rest) = inner ++ rest := by
    rw [hfront, List.append_assoc, trimStart_append hblanks, trimStart_of_head]
    rw [List.head?_append_of_ne_nil _ hne]
    exact hinner
  rw [htrim]
  exact fun hprefix => not_fileOpening_prefix h hblanks hfront
    (fileOpening_prefix_of_append hne hrest hprefix)

/-! ### Reading resolved data -/

/-- Data that begin with a placeholder for a file, apart from blanks: its path, what stands behind
it, and the text that this comes to. -/
structure Leads (ctx : Context) (s t : Source) (segments : List Segment) (data path : List Char)
    (behind : List Segment) (u : Source) (rest : List Char) : Prop where
  placeholder : ∃ front file, segments = front ++ file :: behind ∧ (∀ gap ∈ front, gap.IsGap) ∧
    file.IsFile ∧ file.filePath ctx s = some (path, u)
  drafted : draftAll ctx behind u = some (rest, t)
  trimmed : trim path = path
  nonempty : path ≠ []
  resolved : ∃ blanks, (∀ c ∈ blanks, isBlank c) ∧ data = blanks ++ (fileMark path ++ rest)
  gaps : trimEnd rest = [] ↔ ∀ gap ∈ behind, gap.IsGap

/-- Merged data begin with a placeholder, apart from blank text, or with text. -/
lemma IsData.cases (h : IsData segments) (hmerged : Merged segments) :
    (∃ front file behind, segments = front ++ file :: behind ∧ (∀ gap ∈ front, gap.IsGap) ∧
      file.IsFile) ∨ BeginsWithText segments := by
  cases segments with
  | nil => exact .inr (.inl (by simp))
  | cons first behind =>
    obtain ⟨hfirst, hbehind⟩ := List.forall_mem_cons.1 h
    rcases hfirst with ⟨text, rfl⟩ | hfile
    · have hnext : ∀ file ∈ behind.head?, file.IsFile := by
        intro file hfile
        refine (hbehind file (List.mem_of_mem_head? hfile)).resolve_left ?_
        rintro ⟨text', rfl⟩
        exact (merged_cons_iff.1 hmerged).2.1 text text' rfl hfile
      by_cases hgap : (Segment.literal text).IsGap
      · cases behind with
        | nil => exact .inr (.inl (by simpa using hgap))
        | cons file behind =>
          exact .inl ⟨[.literal text], file, behind, rfl, by simpa using hgap, hnext file rfl⟩
      · exact .inr (.inr ⟨text, behind, rfl, hgap, hnext⟩)
    · exact .inl ⟨[], first, behind, rfl, by simp, hfile⟩

/-- What the first placeholder and the segments around it are resolved to. -/
lemma exists_leads {front behind : List Segment} {file : Segment} {data : List Char}
    (h : IsData (front ++ file :: behind))
    (hcovers : ∀ segment ∈ front ++ file :: behind, ∃ span, Covers segment span)
    (hfront : ∀ gap ∈ front, gap.IsGap) (hfile : file.IsFile)
    (hdata : draftAll ctx (front ++ file :: behind) s = some (data, t)) :
    ∃ path u rest, Leads ctx s t (front ++ file :: behind) data path behind u rest := by
  obtain ⟨blanks, hblanks, hblank⟩ := draftAll_of_gaps ctx hfront
  rw [draftAll_append, hblank, pure_bind, draftAll_cons] at hdata
  simp only [bind_assoc, pure_bind] at hdata
  obtain ⟨mark, u, hmark, hdata⟩ := bind_eq_some_iff.1 hdata
  obtain ⟨rest, v, hrest, hdata⟩ := bind_eq_some_iff.1 hdata
  cases hdata
  obtain ⟨span, hspan⟩ := hcovers file (by simp)
  obtain ⟨path, hpath, rfl, htrimmed, hne⟩ := hfile.draft_eq hspan hmark
  refine ⟨path, u, rest, ⟨front, file, rfl, hfront, hfile, hpath⟩, hrest, htrimmed, hne,
    ⟨blanks, hblanks, rfl⟩, ?_⟩
  rw [trimEnd_eq_nil_iff]
  constructor
  · exact gaps_of_draftAll (fun segment hsegment => h segment (by simp [hsegment]))
      (fun segment hsegment => hcovers segment (by simp [hsegment])) hrest
  · intro hgaps
    obtain ⟨blanks', hblanks', hblank'⟩ := draftAll_of_gaps ctx hgaps
    rw [hblank'] at hrest
    cases hrest
    exact hblanks'

namespace Leads

variable {data path rest : List Char} {behind : List Segment} {u : Source}

/-- Whatever is known about the first placeholder is about the same one. -/
lemma unique (h : Leads ctx s t segments data path behind u rest) {front' behind' : List Segment}
    {file' : Segment} {path' : List Char} {u' : Source}
    (hsegments : segments = front' ++ file' :: behind')
    (hfront' : ∀ gap ∈ front', gap.IsGap) (hfile' : file'.IsFile)
    (hpath' : file'.filePath ctx s = some (path', u')) :
    path' = path ∧ u' = u ∧ behind' = behind := by
  obtain ⟨front, file, hwhole, hfront, hfile, hpath⟩ := h.placeholder
  obtain ⟨rfl, rfl⟩ := first_unique (hwhole.symm.trans hsegments) hfront hfront' hfile hfile'
  rw [hpath, Option.some.injEq, Prod.mk.injEq] at hpath'
  exact ⟨hpath'.1.symm, hpath'.2.symm, rfl⟩

lemma isSole_iff (h : Leads ctx s t segments data path behind u rest) {path' : List Char} :
    IsSole ctx s segments path' ↔ path' = path ∧ trimEnd rest = [] := by
  rw [h.gaps]
  constructor
  · rintro ⟨front', file', behind', hsegments, hfront', hfile', hbehind', u', hpath'⟩
    obtain ⟨rfl, -, rfl⟩ := h.unique hsegments hfront' hfile' hpath'
    exact ⟨rfl, hbehind'⟩
  · rintro ⟨rfl, hgaps⟩
    obtain ⟨front, file, hsegments, hfront, hfile, hpath⟩ := h.placeholder
    exact ⟨front, file, behind, hsegments, hfront, hfile, hgaps, u, hpath⟩

lemma overruns_iff (h : Leads ctx s t segments data path behind u rest) {path' more : List Char} :
    Overruns ctx s segments path' more ↔ path' = path ∧ trimEnd rest = more ++ fileEnd := by
  constructor
  · rintro ⟨front', file', behind', hsegments, hfront', hfile', u', rest', v, hpath', hrest', hend⟩
    obtain ⟨rfl, rfl, rfl⟩ := h.unique hsegments hfront' hfile' hpath'
    have hsame := h.drafted
    rw [hrest', Option.some.injEq, Prod.mk.injEq] at hsame
    exact ⟨rfl, hsame.1 ▸ hend⟩
  · rintro ⟨rfl, hend⟩
    obtain ⟨front, file, hsegments, hfront, hfile, hpath⟩ := h.placeholder
    exact ⟨front, file, behind, hsegments, hfront, hfile, u, rest, t, hpath, h.drafted, hend⟩

/-- The placeholder is read as it was written, unless the text behind it overruns. -/
lemma fileReference?_eq_some_iff (h : Leads ctx s t segments data path behind u rest)
    (hend : ¬ fileEnd <:+ trimEnd rest) {path' : List Char} :
    Attachment.fileReference? data = some path' ↔ IsSole ctx s segments path' := by
  obtain ⟨blanks, hblanks, rfl⟩ := h.resolved
  rw [h.isSole_iff]
  by_cases hrest : trimEnd rest = []
  · rw [fileReference?_of_blank hblanks h.trimmed h.nonempty hrest, Option.some.injEq,
      and_iff_left hrest, eq_comm]
  · rw [fileReference?_of_other hblanks hrest hend]
    exact iff_of_false (by simp) fun hsole => hrest hsole.2

end Leads

/-- No placeholder is the first one of data that begin with text. -/
lemma BeginsWithText.not_isFile {front behind : List Segment} {file : Segment}
    (h : BeginsWithText segments) (hsegments : segments = front ++ file :: behind)
    (hfront : ∀ gap ∈ front, gap.IsGap) : ¬ file.IsFile := by
  intro hfile
  rcases h with hgaps | ⟨text, behind', rfl, hgap, -⟩
  · exact hfile.not_isGap (hgaps file (by simp [hsegments]))
  · cases front with
    | nil => exact hfile.ne_literal text (List.cons.inj hsegments).1.symm
    | cons gap front =>
      obtain ⟨rfl, -⟩ := List.cons.inj hsegments
      exact hgap (hfront _ List.mem_cons_self)

/-- Data that do not begin with a placeholder for a file are not read as one. -/
lemma fileReference?_eq_none_of_text {text data : List Char} (htext : tokenize text = .ok segments)
    (h : BeginsWithText segments) (hdata : draftAll ctx segments s = some (data, t)) :
    Attachment.fileReference? data = none := by
  obtain ⟨spans, hspans, -⟩ := covers_of_tokenize htext
  rw [Option.eq_none_iff_forall_ne_some]
  intro path hpath
  obtain ⟨inner, hinner, -⟩ := fileReference?_eq_some_iff.1 hpath
  have hprefix : fileOpening <+: trimStart data := by
    have hmark : fileOpening <+: trim data := ⟨inner ++ fileEnd, by
      rw [hinner, fileMark_eq, List.append_assoc]⟩
    exact hmark.trans (trimEnd_prefix_self _)
  rcases h with hgaps | ⟨front, behind, rfl, hgap, hnext⟩
  · obtain ⟨blanks, hblanks, hblank⟩ := draftAll_of_gaps ctx hgaps
    rw [hblank] at hdata
    cases hdata
    rw [trim_eq_nil_iff.2 hblanks, fileMark_eq] at hinner
    simp [fileOpening] at hinner
  · rw [draftAll_cons, draft_literal, pure_bind] at hdata
    obtain ⟨rest, u, hrest, hdata⟩ := bind_eq_some_iff.1 hdata
    cases hdata
    refine not_prefix_of_literal htext hgap ?_ hprefix
    cases behind with
    | nil =>
      rw [draftAll_nil] at hrest
      cases hrest
      exact .inl rfl
    | cons file behind =>
      rw [draftAll_cons] at hrest
      obtain ⟨mark, v, hmark, hrest⟩ := bind_eq_some_iff.1 hrest
      obtain ⟨rest', w, -, hrest⟩ := bind_eq_some_iff.1 hrest
      cases hrest
      obtain ⟨span, hspan⟩ := exists_covers hspans file (by simp)
      obtain ⟨path, -, rfl, -⟩ := (hnext file rfl).draft_eq hspan hmark
      exact .inr rfl

/-- Data that do not overrun are read as the file with the path of their one placeholder, or not at
all. -/
lemma fileReference?_of_not_overruns {text data : List Char} (htext : tokenize text = .ok segments)
    (hsegments : IsData segments) (hdata : draftAll ctx segments s = some (data, t))
    (hover : ¬ ∃ path more, Overruns ctx s segments path more) (path : List Char) :
    Attachment.fileReference? data = some path ↔ IsSole ctx s segments path := by
  obtain ⟨spans, hspans, -, hmerged⟩ := covers_of_tokenize htext
  rcases hsegments.cases hmerged with ⟨front, file, behind, rfl, hfront, hfile⟩ | htext'
  · obtain ⟨path', u, rest, hleads⟩ :=
      exists_leads hsegments (exists_covers hspans) hfront hfile hdata
    refine hleads.fileReference?_eq_some_iff ?_
    rintro ⟨more, hmore⟩
    exact hover ⟨path', more, hleads.overruns_iff.2 ⟨rfl, hmore.symm⟩⟩
  · rw [fileReference?_eq_none_of_text htext htext' hdata]
    refine iff_of_false (by simp) ?_
    rintro ⟨front, file, behind, hwhole, hfront, hfile, -⟩
    exact htext'.not_isFile hwhole hfront hfile

/-- Data that overrun are read as a file, and are not one placeholder. -/
lemma fileReference?_of_overruns {text data path more : List Char}
    (htext : tokenize text = .ok segments) (hsegments : IsData segments)
    (hdata : draftAll ctx segments s = some (data, t)) (hover : Overruns ctx s segments path more) :
    Attachment.fileReference? data = some (trim (path ++ fileEnd ++ more)) ∧
      ∀ path', ¬ IsSole ctx s segments path' := by
  obtain ⟨spans, hspans, -, -⟩ := covers_of_tokenize htext
  obtain ⟨front, file, behind, rfl, hfront, hfile, -⟩ := id hover
  obtain ⟨path', u, rest, hleads⟩ :=
    exists_leads hsegments (exists_covers hspans) hfront hfile hdata
  obtain ⟨rfl, hend⟩ := hleads.overruns_iff.1 hover
  obtain ⟨blanks, hblanks, rfl⟩ := hleads.resolved
  refine ⟨fileReference?_of_fileEnd hblanks hleads.trimmed hleads.nonempty hend, ?_⟩
  intro path' hsole
  have hnil := (hleads.isSole_iff.1 hsole).2
  rw [hend] at hnil
  simp [fileEnd] at hnil

/-- Data are read as the file with the path of their one placeholder, or not at all, unless they
overrun. Then the path that is read goes on up to the end of the data. -/
theorem fileReference?_resolve {text data : List Char} (htext : tokenize text = .ok segments)
    (hsegments : IsData segments) (hdata : resolveAll ctx segments s = (.ok data, t)) :
    ((∀ path, Attachment.fileReference? data = some path ↔ IsSole ctx s segments path) ↔
      ¬ ∃ path more, Overruns ctx s segments path more) ∧
    (∀ path more, Overruns ctx s segments path more →
      Attachment.fileReference? data = some (trim (path ++ fileEnd ++ more))) ∧
    ((¬ ∃ path more, Overruns ctx s segments path more) → ∀ name members,
      Table.get? members "data" = some (.string (String.ofList data)) →
        ((∀ mode files, (Attachment.ofEntry mode files name (.object members)).map (·.payload) =
          .ok (.inline (utf8Encode data))) ↔ ∀ path, ¬ IsSole ctx s segments path)) := by
  have hdraft := draftAll_eq_some_iff.2 hdata
  have hread := fileReference?_of_not_overruns htext hsegments hdraft
  refine ⟨⟨?_, hread⟩, fun path more hover =>
    (fileReference?_of_overruns htext hsegments hdraft hover).1, ?_⟩
  · rintro hall ⟨path, more, hover⟩
    obtain ⟨hfile, hnone⟩ := fileReference?_of_overruns htext hsegments hdraft hover
    exact hnone _ ((hall _).1 hfile)
  · intro hover name members hmember
    have hpayload := @payload_iff name members _ hmember
    rw [String.toList_ofList] at hpayload
    rw [hpayload, Option.eq_none_iff_forall_ne_some]
    exact forall_congr' fun path => not_congr (hread hover path)

/-- An instance with a reference in the path, and blanks around the path and around the
placeholder. -/
theorem fileReference?_resolve_reference :
    let ctx : Context := ⟨1, "db", "user"⟩
    let s := Source.ofWords #[]
    let text := " #\x7bfile( #\x7bdb_prefix\x7d/a )\x7d ".toList
    let data := " #\x7bfile(db/a)\x7d ".toList
    let file := .deferred .file [.literal [' '], .reference .dbPrefix, .literal "/a ".toList]
    let segments := [.literal [' '], file, .literal [' ']]
    tokenize text = .ok segments ∧ IsData segments ∧ resolveAll ctx segments s = (.ok data, s) ∧
      (¬ ∃ path more, Overruns ctx s segments path more) ∧
      Attachment.fileReference? data = some "db/a".toList ∧
      IsSole ctx s segments "db/a".toList := by
  intro ctx s text data file segments
  have htext : tokenize text = .ok segments := rfl
  have hsegments : IsData segments := by
    intro segment hsegment
    simp only [segments, List.mem_cons, List.not_mem_nil, or_false] at hsegment
    rcases hsegment with rfl | rfl | rfl
    · exact .inl ⟨_, rfl⟩
    · exact .inr trivial
    · exact .inl ⟨_, rfl⟩
  have hcall : Call.ofArguments .file ([' '] ++ (ctx.text .dbPrefix ++ ("/a ".toList ++ []))) =
      .ok (.file "db/a".toList) := by decide +kernel
  have hdraft : draftAll ctx segments s = some (data, s) := by
    simp only [segments, file, draftAll_cons, draftAll_nil, draft_literal, draft_deferred,
      draft_reference, pure_bind, draft_of_ofArguments hcall]
    rfl
  have hover : ¬ ∃ path more, Overruns ctx s segments path more := by
    rintro ⟨path, more, front, found, behind, hwhole, hfront, hfile, t, rest, u, -, hrest, hend⟩
    have hgap : ∀ gap ∈ [Segment.literal [' ']], gap.IsGap := by simp [Segment.IsGap]; decide
    have hsplit : [.literal [' ']] ++ file :: [.literal [' ']] = front ++ found :: behind := hwhole
    obtain ⟨-, rfl⟩ := first_unique hsplit hgap hfront trivial hfile
    rw [draftAll_cons, draft_literal, draftAll_nil] at hrest
    cases hrest
    have hnil : trimEnd ([' '] ++ []) = [] := by decide
    rw [hnil] at hend
    simp [fileEnd] at hend
  have hread : Attachment.fileReference? data = some "db/a".toList := by decide +kernel
  have hdata := draftAll_eq_some_iff.1 hdraft
  exact ⟨htext, hsegments, hdata, hover, hread,
    ((fileReference?_resolve htext hsegments hdata).1.2 hover _).1 hread⟩

/-- Two placeholders are read as one file, the path of which holds the end of the first mark and the
beginning of the second. -/
theorem fileReference?_two_files :
    let ctx : Context := ⟨1, "db", "user"⟩
    let s := Source.ofWords #[]
    let text := "#\x7bfile(a)\x7d#\x7bfile(b)\x7d".toList
    let segments := [.call (.file ['a']), .call (.file ['b'])]
    tokenize text = .ok segments ∧ IsData segments ∧ resolveAll ctx segments s = (.ok text, s) ∧
      Attachment.fileReference? text = some "a)\x7d#\x7bfile(b".toList ∧
      ∀ path, ¬ IsSole ctx s segments path := by
  intro ctx s text segments
  have hdraft : draftAll ctx segments s = some (text, s) := by
    simp only [segments, draftAll_cons, draft_call]
    rfl
  refine ⟨rfl, ?_, draftAll_eq_some_iff.1 hdraft, by decide +kernel, ?_⟩
  · intro segment hsegment
    simp only [segments, List.mem_cons, List.not_mem_nil, or_false] at hsegment
    rcases hsegment with rfl | rfl <;> exact .inr trivial
  · rintro path ⟨front, found, behind, hwhole, hfront, hfile, hbehind, -⟩
    have hsplit : [] ++ .call (.file ['a']) :: [.call (.file ['b'])] = front ++ found :: behind :=
      hwhole
    obtain ⟨-, rfl⟩ := first_unique hsplit (by simp) hfront trivial hfile
    exact hbehind _ List.mem_cons_self

end CouchLoad.Template
