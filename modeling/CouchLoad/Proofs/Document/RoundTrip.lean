import CouchLoad.Proofs.Document.Body
import CouchLoad.Proofs.Json.Members
import CouchLoad.Proofs.Text.Base64

/-!
# Reading bodies back

The body of a document is a value that a document can be made of. What is made of it is the same
document: alone it has no attachments, and among others it has all of them, with the base64 form of
their bytes. That form is never taken for a reference to a file, so nothing is encoded twice.
-/

namespace CouchLoad

open Text

/-! ### Attachments inside a document -/

namespace Attachment

variable {mode : AttachmentMode} {files : Files}

/-- An attachment that has been written into a body and read back: the same one, with the base64
form of its bytes, of which these can be recovered. -/
structure EncodesTo (a encoded : Attachment) : Prop where
  name : encoded.name = a.name
  contentType : encoded.contentType = a.contentType
  payload : ∃ bytes text, a.payload = .inline bytes ∧ encoded.payload = .inline (utf8Encode text) ∧
    text = base64Encode bytes ∧ base64Decode? text = some bytes

/-- There is a hash sign in every reference to a file. -/
lemma hash_mem_of_fileReference? {data path : List Char} (h : fileReference? data = some path) :
    '#' ∈ data := by
  obtain ⟨body, hbody, -⟩ := Option.bind_eq_some_iff.1 h
  have htrim : '#' ∈ trim data := by
    rw [← List.isPrefixOf?_eq_some_iff_append_eq.1 hbody]
    exact List.mem_append_left _ (by decide)
  have hstart : '#' ∈ trimStart data :=
    List.mem_reverse.1 ((List.dropWhile_sublist _).mem (List.mem_reverse.1 htrim))
  exact (List.dropWhile_sublist _).mem hstart

lemma fileReference?_base64Encode (bytes : List UInt8) :
    fileReference? (base64Encode bytes) = none := by
  cases h : fileReference? (base64Encode bytes) with
  | none => rfl
  | some path =>
    rcases mem_of_mem_base64Encode bytes _ (hash_mem_of_fileReference? h) with hpad | hmem
    · exact absurd hpad (by decide)
    · exact absurd hmem (by decide)

/-- Bytes in a document are read back as their base64 form, and no file is looked at for that. -/
lemma exists_stub {a : Attachment} {bytes : List UInt8} (h : a.payload = .inline bytes) :
    ∃ stub encoded, a.stub? = some stub ∧ EncodesTo a encoded ∧
      ∀ mode files, ofEntry mode files a.name stub = .ok encoded := by
  obtain ⟨name, contentType, payload⟩ := a
  cases h
  let encoded : Attachment := ⟨name, contentType, .inline (utf8Encode (base64Encode bytes))⟩
  have hencodes : EncodesTo ⟨name, contentType, .inline bytes⟩ encoded :=
    ⟨rfl, rfl, bytes, _, rfl, rfl, rfl, base64Decode?_base64Encode bytes⟩
  cases contentType with
  | none =>
    refine ⟨_, encoded, rfl, hencodes, fun mode files => ?_⟩
    simp [ofEntry, Table.get?_cons, Table.get?_nil, fileReference?_base64Encode, encoded, pure,
      Except.pure]
  | some type =>
    refine ⟨_, encoded, rfl, hencodes, fun mode files => ?_⟩
    simp [ofEntry, Table.get?_cons, fileReference?_base64Encode, encoded, pure, Except.pure,
      Json.string?]

/-- Attachments that all have their bytes stand in a document one after the other. -/
lemma exists_stubs {attachments : List Attachment}
    (h : ∀ a ∈ attachments, ∃ bytes, a.payload = .inline bytes) :
    ∃ entries encoded,
      (attachments.filterMap fun a => a.stub?.map fun stub => (a.name, stub)) = entries ∧
      Table.keys entries = attachments.map name ∧ List.Forall₂ EncodesTo attachments encoded ∧
      ∀ mode files, ofEntries mode files entries = .ok encoded := by
  induction attachments with
  | nil => exact ⟨[], [], rfl, rfl, .nil, fun _ _ => rfl⟩
  | cons a attachments ih =>
    obtain ⟨⟨bytes, hbytes⟩, hrest⟩ := List.forall_mem_cons.1 h
    obtain ⟨stub, encoded, hstub, hencodes, hread⟩ := exists_stub hbytes
    obtain ⟨entries, rest, hentries, hkeys, hencodes', hread'⟩ := ih hrest
    refine ⟨(a.name, stub) :: entries, encoded :: rest, ?_, ?_, .cons hencodes hencodes', ?_⟩
    · simp [hstub, hentries]
    · simp [hkeys]
    · intro mode files
      exact bind_eq_ok_iff.2 ⟨_, hread mode files, bind_eq_ok_iff.2 ⟨_, hread' mode files, rfl⟩⟩

/-- Files that are read at once leave bytes in all attachments. -/
lemma inline_of_split {members rest : Table Json} {attachments : List Attachment}
    (h : split .eager files members = .ok (rest, attachments)) :
    ∀ a ∈ attachments, ∃ bytes, a.payload = .inline bytes := by
  obtain ⟨described, -, hloads⟩ := (split_eager_iff files).1 h
  clear h
  induction hloads with
  | nil => simp
  | cons hload _ ih => exact List.forall_mem_cons.2 ⟨hload.exists_inline, ih⟩

/-- No two attachments of a document have one name. -/
lemma nodup_of_split {members rest : Table Json} {attachments : List Attachment}
    (hmembers : (Json.object members).Tidy)
    (h : split mode files members = .ok (rest, attachments)) : (attachments.map name).Nodup := by
  obtain ⟨-, ⟨-, rfl⟩ | ⟨entries, hget, hentries⟩⟩ := split_eq_ok_iff.1 h
  · exact List.nodup_nil
  · rw [map_name_of_ofEntries hentries]
    have htidy := (Json.tidy_object_iff.1 hmembers).2 _ (Table.mem_of_get? hget)
    exact (Json.tidy_object_iff.1 htidy).1

end Attachment

namespace Document

variable {mode : AttachmentMode} {files : Files} {d : Document}

/-- What has been put in front of the fields is taken away again. -/
lemma WellFormed.erase_header (h : d.WellFormed) :
    (d.members.erase "_id").erase "_rev" = d.fields := by
  have hnil : ∀ key ∈ Table.keys ([] : Table Json), key = "_attachments" := by simp
  have herase := h.erase_members hnil
  have hnone : "_attachments" ∉ Table.keys ((d.members.erase "_id").erase "_rev") := by
    simp [Table.keys_erase, h.attachments_notMem]
  rwa [List.append_nil, Table.erase_of_notMem hnone] at herase

/-- A document is made of a value if its members are left when the attachments are split off. -/
lemma WellFormed.ofJson_of_split (h : d.WellFormed) {members : Table Json}
    {attachments : List Attachment}
    (hsplit : Attachment.split mode files members = .ok (d.members, attachments))
    (fresh : Entropy.Uuid) :
    ofJson mode files fresh (.object members) = .ok { d with attachments } := by
  have hnil : ∀ key ∈ Table.keys ([] : Table Json), key = "_attachments" := by simp
  have hid := h.get?_id []
  have hrev := h.get?_rev hnil
  rw [List.append_nil] at hid hrev
  refine ofJson_eq_ok_iff.2 ⟨members, d.members, rfl, hsplit, ?_, ?_, h.erase_header.symm⟩
  · rw [hid]
    rfl
  · rw [hrev]
    cases d.rev <;> rfl

lemma WellFormed.split_members (h : d.WellFormed) :
    Attachment.split mode files d.members = .ok (d.members, []) := by
  have hnone := h.attachments_notMem
  exact Attachment.split_eq_ok_iff.2
    ⟨(Table.erase_of_notMem hnone).symm, .inl ⟨Table.get?_eq_none_iff.2 hnone, rfl⟩⟩

lemma WellFormed.split_insert (h : d.WellFormed) {entries : Table Json}
    {attachments : List Attachment}
    (hentries : Attachment.ofEntries mode files entries = .ok attachments) :
    Attachment.split mode files (d.members.insert "_attachments" (.object entries)) =
      .ok (d.members, attachments) := by
  refine Attachment.split_eq_ok_iff.2 ⟨?_, .inr ⟨entries, Table.get?_insert_self _ _ _, hentries⟩⟩
  rw [Table.insert_of_notMem h.attachments_notMem, Table.erase_append,
    Table.erase_of_notMem h.attachments_notMem]
  simp [Table.erase]

/-- All attachments that have their bytes come back from the body among others. -/
lemma WellFormed.bulkBody_read (h : d.WellFormed)
    (hinline : ∀ a ∈ d.attachments, ∃ bytes, a.payload = .inline bytes)
    (hnodup : (d.attachments.map Attachment.name).Nodup) :
    ∃ attachments, List.Forall₂ Attachment.EncodesTo d.attachments attachments ∧
      ∀ mode files fresh, ofJson mode files fresh d.bulkBody = .ok { d with attachments } := by
  obtain ⟨entries, encoded, hentries, hkeys, hencodes, hread⟩ := Attachment.exists_stubs hinline
  have hstubs : d.stubs = entries := by
    rw [stubs, hentries]
    exact Table.foldl_insert_of_nodup entries [] (hkeys ▸ hnodup) (by simp)
  refine ⟨encoded, hencodes, fun mode files fresh => ?_⟩
  rw [bulkBody, hstubs]
  cases entries with
  | nil =>
    have hnone : encoded = [] := (Except.ok.inj (hread mode files)).symm
    rw [hnone]
    exact h.ofJson_of_split h.split_members fresh
  | cons entry entries => exact h.ofJson_of_split (h.split_insert (hread mode files)) fresh

/-- Bodies are read back as the documents that they were made for, whatever revision these have been
given. A document that is written alone comes back without attachments. One that is written among
others and has had its files read comes back with all its attachments, each of which holds the
base64 form of its bytes. -/
theorem bodies_read_back {fresh : Entropy.Uuid} {v : Json} (hv : v.Tidy)
    (h : ofJson mode files fresh v = .ok d) (rev : Option String) :
    let d' := { d with rev }
    (∀ mode' files' fresh',
      ofJson mode' files' fresh' d'.body = .ok { d' with attachments := [] }) ∧
    (mode = .eager → ∃ attachments,
      List.Forall₂ Attachment.EncodesTo d.attachments attachments ∧
      ∀ mode' files' fresh',
        ofJson mode' files' fresh' d'.bulkBody = .ok { d' with attachments }) := by
  intro d'
  obtain ⟨members, rest, rfl, hsplit, -⟩ := ofJson_eq_ok_iff.1 h
  have hwell : d'.WellFormed := (wellFormed_of_ofJson (Json.tidy_object_iff.1 hv).1 h).withRev rev
  constructor
  · exact fun mode' files' fresh' => hwell.ofJson_of_split hwell.split_members fresh'
  · rintro rfl
    exact hwell.bulkBody_read (Attachment.inline_of_split hsplit)
      (Attachment.nodup_of_split hv hsplit)

/-- A document with a text and a file, written over its revision. -/
theorem bodies_read_back_attached :
    let files : Files := fun path => if path = "a.bin" then .ok [0, 255] else .error .notFound
    let v : Json := .object [("b", .bool true), ("_attachments", .object [
      ("note", .object [("content_type", .string "text/plain"), ("data", .string "hello")]),
      ("file", .object [("data", .string "#\x7bfile(a.bin)\x7d")])]),
      ("_id", .number (.whole 12)), ("_rev", .string "1-a"), ("a", .null)]
    let d : Document := ⟨"12", some "1-a", [("b", .bool true), ("a", .null)],
      [⟨"note", some "text/plain", .inline [104, 101, 108, 108, 111]⟩,
        ⟨"file", none, .inline [0, 255]⟩]⟩
    let d' := { d with rev := some "2-b" }
    v.Tidy ∧ ofJson .eager files ⟨0, 0⟩ v = .ok d ∧
      ofJson .lazy files ⟨0, 0⟩ d'.body = .ok { d' with attachments := [] } ∧
      ∃ attachments, List.Forall₂ Attachment.EncodesTo d.attachments attachments ∧
        ofJson .lazy files ⟨0, 0⟩ d'.bulkBody = .ok { d' with attachments } := by
  intro files v d d'
  have hv : v.Tidy := by simp [v]
  have hd : ofJson .eager files ⟨0, 0⟩ v = .ok d := by decide +kernel
  obtain ⟨hbody, hbulk⟩ := bodies_read_back hv hd (some "2-b")
  obtain ⟨attachments, hencodes, hread⟩ := hbulk rfl
  exact ⟨hv, hd, hbody .lazy files ⟨0, 0⟩, attachments, hencodes, hread .lazy files ⟨0, 0⟩⟩

end Document

end CouchLoad
