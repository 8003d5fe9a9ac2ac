import CouchLoad.Proofs.Document.Body
import CouchLoad.Proofs.Template.Pruning
import CouchLoad.Template.Basic

/-!
# Escaped hash signs

An escaped hash sign is resolved to a hash sign, and then nothing tells it from the one of a mark.
So it is plain text in the document just where no mark comes of it: a member is kept under its own
name unless that looks like a conditional name, and the data of an attachment are its bytes unless
they look like the mark of a file.
-/

namespace CouchLoad.Template

open Entropy Text

variable {ctx : Context}

/-! ### Documents -/

lemma tidy_of_compile {t : Template} {s u : Source} {v : Json}
    (h : t.compile ctx s = (.ok v, u)) : v.Tidy := by
  unfold compile at h
  split at h
  · cases h
  · exact Json.tidy_of_parse (mapError_eq_ok_iff.1 (Prod.mk.inj h).1)

lemma value_eq_prune {t : Template} {s u : Source} {v : Json} (h : t.compile ctx s = (.ok v, u)) :
    (t.value ctx s).1 = prune ctx v := by
  unfold value
  rw [h]
  rfl

/-- The fields of a document are among the members of the value that it is made of. -/
lemma mem_of_mem_fields {mode : AttachmentMode} {files : Files} {fresh : Uuid} {v : Json}
    {d : Document} (h : Document.ofJson mode files fresh v = .ok d) :
    ∃ members, v = .object members ∧ ∀ member ∈ d.fields, member ∈ members := by
  obtain ⟨members, rest, rfl, hsplit, -, -, hfields⟩ := Document.ofJson_eq_ok_iff.1 h
  obtain ⟨rfl, -⟩ := Attachment.split_eq_ok_iff.1 hsplit
  refine ⟨members, rfl, fun member hmember => ?_⟩
  rw [hfields] at hmember
  exact Table.mem_of_mem_erase (Table.mem_of_mem_erase (Table.mem_of_mem_erase hmember))

/-- No name in a document is conditional, whether its hash sign was escaped or not. -/
lemma unconditional_of_render {t : Template} {mode : AttachmentMode} {files : Files} {fresh : Uuid}
    {s : Source} {d : Document} (h : (t.render ctx mode files fresh s).1 = .ok d) :
    ∀ name ∈ (Json.object d.fields).names, Unconditional name := by
  have hrender : ((t.value ctx s).1.bind (Document.ofJson mode files fresh)) = .ok d := h
  obtain ⟨w, hw, hd⟩ := bind_eq_ok_iff.1 hrender
  obtain ⟨members, rfl, hsub⟩ := mem_of_mem_fields hd
  have hvalue : ((t.compile ctx s).1.bind (prune ctx)) = .ok (.object members) := hw
  obtain ⟨v, -, hv⟩ := bind_eq_ok_iff.1 hvalue
  intro name hname
  obtain ⟨member, hmember, hin⟩ := Json.mem_namesOfMembers_iff.1 hname
  exact (pruned_of_prune v hv).unconditional name
    (Json.mem_namesOfMembers_iff.2 ⟨member, hsub member hmember, hin⟩)

/-- The data of an attachment are its bytes, whatever files there are and whenever they are read,
unless the data look like the mark of a file. -/
lemma payload_iff {name : String} {members : Table Json} {data : String}
    (hdata : members.get? "data" = some (.string data)) :
    (∀ mode files, (Attachment.ofEntry mode files name (.object members)).map (·.payload) =
      .ok (.inline (utf8Encode data.toList))) ↔ Attachment.fileReference? data.toList = none := by
  constructor
  · intro h
    have hlazy := h .lazy fun _ => .error .notFound
    cases hfile : Attachment.fileReference? data.toList with
    | none => rfl
    | some path => simp [Attachment.ofEntry, hdata, hfile, Except.map, pure, Except.pure] at hlazy
  · intro hfile mode files
    simp [Attachment.ofEntry, hdata, hfile, Except.map, pure, Except.pure]

/-! ### Escapes -/

mutual

/-- A segment with a hash sign as such in the place of every escape. -/
def Segment.unescape : Segment → Segment
  | .literal text => .literal text
  | .hash => .literal ['#']
  | .reference r => .reference r
  | .call c => .call c
  | .deferred kind arguments => .deferred kind (unescapeAll arguments)
  | .condition source => .condition (unescapeAll source)

/-- Segments with a hash sign as such in the place of every escape. -/
def unescapeAll : List Segment → List Segment
  | [] => []
  | segment :: segments => segment.unescape :: unescapeAll segments

end

mutual

lemma resolve_unescape (segment : Segment) :
    segment.unescape.resolve ctx = segment.resolve ctx := by
  funext s
  match segment with
  | .literal _ | .reference _ | .call _ => rw [Segment.unescape]
  | .hash => rw [Segment.unescape, Segment.resolve, Segment.resolve]
  | .condition source =>
    rw [Segment.unescape, Segment.resolve, Segment.resolve, resolveAll_unescapeAll source]
  | .deferred kind arguments =>
    rw [Segment.unescape, Segment.resolve, Segment.resolve, resolveAll_unescapeAll arguments]

/-- An escaped hash sign is resolved to what a hash sign as such is resolved to. -/
lemma resolveAll_unescapeAll (segments : List Segment) :
    resolveAll ctx (unescapeAll segments) = resolveAll ctx segments := by
  funext s
  match segments with
  | [] => rw [unescapeAll]
  | segment :: segments =>
    rw [unescapeAll, resolveAll, resolveAll, resolve_unescape segment,
      resolveAll_unescapeAll segments]

end

lemma compile_unescapeAll (t : Template) (s : Source) :
    (Template.mk (unescapeAll t.segments)).compile ctx s = t.compile ctx s := by
  unfold compile
  rw [resolveAll_unescapeAll]

lemma resolveAll_append (front behind : List Segment) (s : Source) :
    resolveAll ctx (front ++ behind) s =
      match resolveAll ctx front s with
      | (.ok text, s) =>
        match resolveAll ctx behind s with
        | (.ok rest, s) => (.ok (text ++ rest), s)
        | (.error e, s) => (.error e, s)
      | (.error e, s) => (.error e, s) := by
  induction front generalizing s with
  | nil =>
    have hnil : resolveAll ctx [] s = (.ok [], s) := by rw [resolveAll]
    rw [List.nil_append, hnil]
    dsimp only
    obtain ⟨_ | rest, u⟩ := resolveAll ctx behind s <;> rfl
  | cons segment front ih =>
    rw [List.cons_append, resolveAll, resolveAll]
    obtain ⟨_ | first, u⟩ := segment.resolve ctx s
    · rfl
    · dsimp only
      rw [ih]
      obtain ⟨_ | text, v⟩ := resolveAll ctx front u
      · rfl
      · dsimp only
        obtain ⟨_ | rest, w⟩ := resolveAll ctx behind v
        · rfl
        · simp only [List.append_assoc]

/-- The mark of a condition whose hash sign is escaped. -/
def escapedCondition (source : List Segment) : List Segment :=
  .hash :: .literal ['{', 'i', 'f', '('] :: (source ++ [.literal [')', '}']])

/-- The mark of a file whose hash sign is escaped. -/
def escapedFile (path : List Char) : List Segment :=
  [.hash, .literal (['{', 'f', 'i', 'l', 'e', '('] ++ path ++ [')', '}'])]

lemma resolveAll_escapedCondition (source : List Segment) :
    resolveAll ctx (escapedCondition source) = resolveAll ctx [.condition source] := by
  funext s
  simp only [escapedCondition, resolveAll, Segment.resolve, resolveAll_append]
  obtain ⟨_ | text, u⟩ := resolveAll ctx source s
  · rfl
  · simp [conditionMark]

lemma resolveAll_escapedFile (path : List Char) :
    resolveAll ctx (escapedFile path) = resolveAll ctx [.call (.file path)] := by
  funext s
  simp [escapedFile, resolveAll, Segment.resolve, Call.resolve, fileMark]

/-- The escape makes no difference for a condition or a file: the document is the same as without
it. -/
theorem render_escaped (front behind source : List Segment) (path : List Char)
    (mode : AttachmentMode) (files : Files) (fresh : Uuid) (s : Source) :
    (Template.mk (front ++ escapedCondition source ++ behind)).render ctx mode files fresh s =
        (Template.mk (front ++ .condition source :: behind)).render ctx mode files fresh s ∧
      (Template.mk (front ++ escapedFile path ++ behind)).render ctx mode files fresh s =
        (Template.mk (front ++ .call (.file path) :: behind)).render ctx mode files fresh s := by
  have hsame : ∀ escaped mark : List Segment, resolveAll ctx escaped = resolveAll ctx mark →
      (Template.mk (front ++ escaped ++ behind)).render ctx mode files fresh s =
        (Template.mk (front ++ mark ++ behind)).render ctx mode files fresh s := by
    intro escaped mark h
    unfold render value compile
    simp only [resolveAll_append, h]
  refine ⟨?_, ?_⟩
  · rw [hsame _ _ (resolveAll_escapedCondition source), List.append_assoc, List.singleton_append]
  · rw [hsame _ _ (resolveAll_escapedFile path), List.append_assoc, List.singleton_append]

/-- An escaped hash sign is no more than a hash sign in the resolved text. The document is made of
this text as it is just where no name in it is conditional and no data look like the mark of a file;
no conditional name ever gets into a document. -/
theorem escape_plain_iff {t : Template} {s u : Source} {v : Json}
    (hcompile : t.compile ctx s = (.ok v, u)) :
    (Template.mk (unescapeAll t.segments)).compile ctx s = (.ok v, u) ∧
      ((t.value ctx s).1 = .ok v ↔ ∀ name ∈ v.names, Unconditional name) ∧
      (∀ mode files fresh d, (t.render ctx mode files fresh s).1 = .ok d →
        ∀ name ∈ (Json.object d.fields).names, Unconditional name) ∧
      ∀ name members data, Table.get? members "data" = some (.string data) →
        ((∀ mode files, (Attachment.ofEntry mode files name (.object members)).map (·.payload) =
          .ok (.inline (utf8Encode data.toList))) ↔
            Attachment.fileReference? data.toList = none) := by
  refine ⟨?_, ?_, fun _ _ _ _ => unconditional_of_render, fun _ _ _ => payload_iff⟩
  · rw [compile_unescapeAll, hcompile]
  · rw [value_eq_prune hcompile]
    exact ⟨fun h => (pruned_of_prune v h).unconditional,
      fun h => Pruned.prune_eq_self ⟨tidy_of_compile hcompile, h⟩⟩

/-- An instance where the escape protects the name of a reference. -/
theorem escape_plain_iff_reference :
    let ctx : Context := ⟨1, "db", "user"⟩
    let s := Source.ofWords #[]
    let text := "\x7b\"_id\":\"a\",\"\\#\x7bdb_prefix\x7d\":1\x7d".toList
    let t : Template := ⟨[.literal "\x7b\"_id\":\"a\",\"".toList, .hash,
      .literal "\x7bdb_prefix\x7d\":1\x7d".toList]⟩
    let v : Json := .object [("_id", .string "a"), ("#\x7bdb_prefix\x7d", .number (.whole 1))]
    tokenize text = .ok t.segments ∧ (∃ u, t.compile ctx s = (.ok v, u)) ∧
      (t.value ctx s).1 = .ok v := by
  intro ctx s text t v
  have htext : tokenize text = .ok t.segments := rfl
  have hcompile : t.compile ctx s = (.ok v, (t.compile ctx s).2) :=
    Prod.ext (by decide +kernel) rfl
  have hnames : ∀ name ∈ v.names, Unconditional name := by decide +kernel
  exact ⟨htext, ⟨_, hcompile⟩, (escape_plain_iff hcompile).2.1.2 hnames⟩

/-- The name of a member and the data of an attachment are no plain text in spite of their escapes:
the member is dropped, and the data become a file. -/
theorem escape_not_plain :
    let ctx : Context := ⟨1, "db", "user"⟩
    let s := Source.ofWords #[]
    let fresh : Uuid := (Uuid.draw s).1
    let files : Files := fun _ => .error .notFound
    let name := "\x7b\"_id\":\"a\",\"\\#\x7bif(false)\x7db\":1\x7d".toList
    let data := ("\x7b\"_id\":\"a\",\"_attachments\":" ++
      "\x7b\"f\":\x7b\"data\":\"\\#\x7bfile(f.bin)\x7d\"\x7d\x7d\x7d").toList
    (parse name).toOption.map (fun t => (t.render ctx .lazy files fresh s).1.toOption) =
        some (some ⟨"a", none, [], []⟩) ∧
      (parse data).toOption.map (fun t => (t.render ctx .lazy files fresh s).1.toOption) =
        some (some ⟨"a", none, [], [⟨"f", none, .file "f.bin"⟩]⟩) := by
  decide +kernel

end CouchLoad.Template
