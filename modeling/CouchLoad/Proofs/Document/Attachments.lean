import CouchLoad.Document.Attachment
import CouchLoad.Proofs.Outcome
import CouchLoad.Proofs.Table

/-!
# Attachments with and without their files

The attachments of a document can be described with their files read or still to be read. Both
descriptions agree entry by entry: where one refers to a file the other has its bytes, and apart
from that they are equal. So the description with bytes exists just when the other one does and
all files that it refers to can be read.
-/

namespace CouchLoad.Attachment

variable {mode : AttachmentMode} {files : Files}

/-- An attachment that has been read in: the same one, with the bytes of its file if it refers to
a file. -/
structure LoadsTo (files : Files) (a loaded : Attachment) : Prop where
  name : loaded.name = a.name
  contentType : loaded.contentType = a.contentType
  inline : ∀ bytes, a.payload = .inline bytes → loaded.payload = .inline bytes
  file : ∀ path, a.payload = .file path →
    ∃ bytes, files path = .ok bytes ∧ loaded.payload = .inline bytes

/-- The file that an attachment refers to, if it does, can be read. -/
def Readable (files : Files) (a : Attachment) : Prop :=
  ∀ path, a.payload = .file path → ∃ bytes, files path = .ok bytes

lemma loadsTo_inline {name : String} {contentType : Option String} {bytes : List UInt8}
    {loaded : Attachment} :
    LoadsTo files ⟨name, contentType, .inline bytes⟩ loaded ↔
      loaded = ⟨name, contentType, .inline bytes⟩ := by
  constructor
  · rintro ⟨rfl, rfl, hinline, -⟩
    obtain ⟨name, contentType, payload⟩ := loaded
    rw [show payload = .inline bytes from hinline bytes rfl]
  · rintro rfl
    exact ⟨rfl, rfl, fun _ h => h, by simp⟩

lemma loadsTo_file {name path : String} {contentType : Option String} {loaded : Attachment} :
    LoadsTo files ⟨name, contentType, .file path⟩ loaded ↔
      ∃ bytes, files path = .ok bytes ∧ loaded = ⟨name, contentType, .inline bytes⟩ := by
  constructor
  · rintro ⟨rfl, rfl, -, hfile⟩
    obtain ⟨bytes, hread, hpayload⟩ := hfile path rfl
    obtain ⟨name, contentType, payload⟩ := loaded
    exact ⟨bytes, hread, by rw [show payload = .inline bytes from hpayload]⟩
  · rintro ⟨bytes, hread, rfl⟩
    exact ⟨rfl, rfl, by simp, fun _ heq => by cases heq; exact ⟨bytes, hread, rfl⟩⟩

lemma exists_loadsTo_iff {a : Attachment} :
    (∃ loaded, LoadsTo files a loaded) ↔ Readable files a := by
  obtain ⟨name, contentType, payload⟩ := a
  cases payload with
  | inline bytes => simp [loadsTo_inline, Readable]
  | file path => simp [loadsTo_file, Readable]

lemma forall_readable_iff {attachments : List Attachment} :
    (∃ loaded, List.Forall₂ (LoadsTo files) attachments loaded) ↔
      ∀ a ∈ attachments, Readable files a := by
  induction attachments with
  | nil => simp
  | cons a attachments ih =>
    rw [List.forall_mem_cons, ← ih, ← exists_loadsTo_iff]
    simp only [List.forall₂_cons_left_iff]
    constructor
    · rintro ⟨_, loaded, rest, hload, hloads, rfl⟩
      exact ⟨⟨loaded, hload⟩, rest, hloads⟩
    · rintro ⟨⟨loaded, hload⟩, rest, hloads⟩
      exact ⟨_, loaded, rest, hload, hloads, rfl⟩

/-- Bytes are all that an attachment holds after its file has been read. -/
lemma LoadsTo.exists_inline {a loaded : Attachment} (h : LoadsTo files a loaded) :
    ∃ bytes, loaded.payload = .inline bytes := by
  cases hpayload : a.payload with
  | inline bytes => exact ⟨bytes, h.inline bytes hpayload⟩
  | file path =>
    obtain ⟨bytes, -, hbytes⟩ := h.file path hpayload
    exact ⟨bytes, hbytes⟩

/-! ### One entry after the other -/

/-- An entry with its file read is the entry as it is described without, read in. -/
lemma ofEntry_eager_iff (others : Files) {name : String} {details : Json} {loaded : Attachment} :
    ofEntry .eager files name details = .ok loaded ↔
      ∃ a, ofEntry .lazy others name details = .ok a ∧ LoadsTo files a loaded := by
  cases details with
  | object members =>
    cases hdata : Table.get? members "data" with
    | none => simp [ofEntry, hdata]
    | some v =>
      cases v with
      | string data =>
        cases href : fileReference? data.toList with
        | none => simp [ofEntry, hdata, href, loadsTo_inline, eq_comm, pure, Except.pure]
        | some path =>
          cases hread : files (String.ofList path) with
          | ok bytes =>
            simp [ofEntry, hdata, href, hread, loadsTo_file, eq_comm, pure, Except.pure]
          | error fault => simp [ofEntry, hdata, href, hread, loadsTo_file, pure, Except.pure]
      | _ => simp [ofEntry, hdata]
  | _ => simp [ofEntry]

/-- Entries are described one after the other, each of them by itself. -/
lemma ofEntries_eq_ok_iff {entries : List (String × Json)} {attachments : List Attachment} :
    ofEntries mode files entries = .ok attachments ↔
      List.Forall₂ (fun entry a => ofEntry mode files entry.1 entry.2 = .ok a) entries
        attachments := by
  induction entries generalizing attachments with
  | nil => simp [ofEntries, eq_comm]
  | cons entry entries ih =>
    obtain ⟨name, details⟩ := entry
    simp only [ofEntries, bind_eq_ok_iff, pure, Except.pure, Except.ok.injEq, ih,
      List.forall₂_cons_left_iff]
    simp [eq_comm]

/-- Lists that agree by way of things in between have a list of these. -/
lemma forall₂_exists_iff {α β γ : Type} {R : α → β → Prop} {S : β → γ → Prop} {l : List α}
    {n : List γ} :
    List.Forall₂ (fun a c => ∃ b, R a b ∧ S b c) l n ↔
      ∃ m, List.Forall₂ R l m ∧ List.Forall₂ S m n := by
  constructor
  · intro h
    induction h with
    | nil => exact ⟨[], .nil, .nil⟩
    | cons hfirst _ ih =>
      obtain ⟨b, hR, hS⟩ := hfirst
      obtain ⟨m, hRs, hSs⟩ := ih
      exact ⟨b :: m, .cons hR hRs, .cons hS hSs⟩
  · rintro ⟨m, hRs, hSs⟩
    induction hRs generalizing n with
    | nil =>
      cases hSs
      exact .nil
    | cons hR _ ih =>
      cases hSs with
      | cons hS hSs => exact .cons ⟨_, hR, hS⟩ (ih hSs)

lemma ofEntries_eager_iff (others : Files) {entries : List (String × Json)}
    {loaded : List Attachment} :
    ofEntries .eager files entries = .ok loaded ↔
      ∃ attachments, ofEntries .lazy others entries = .ok attachments ∧
        List.Forall₂ (LoadsTo files) attachments loaded := by
  simp only [ofEntries_eq_ok_iff, ofEntry_eager_iff others]
  exact forall₂_exists_iff

lemma name_of_ofEntry {name : String} {details : Json} {a : Attachment}
    (h : ofEntry mode files name details = .ok a) : a.name = name := by
  unfold ofEntry at h
  simp only [pure, Except.pure] at h
  repeat' split at h
  all_goals cases h
  all_goals rfl

/-- The attachments have the names of their entries. -/
lemma map_name_of_ofEntries {entries : List (String × Json)} {attachments : List Attachment}
    (h : ofEntries mode files entries = .ok attachments) :
    attachments.map name = entries.map Prod.fst := by
  rw [eq_comm, ← List.forall₂_eq_eq_eq, List.forall₂_map_left_iff, List.forall₂_map_right_iff]
  exact (ofEntries_eq_ok_iff.1 h).imp fun entry a ha => (name_of_ofEntry ha).symm

/-! ### Documents -/

/-- What is split off are the entries of `_attachments`, which has to be an object. -/
lemma split_eq_ok_iff {members rest : Table Json} {attachments : List Attachment} :
    split mode files members = .ok (rest, attachments) ↔
      rest = members.erase "_attachments" ∧
        (members.get? "_attachments" = none ∧ attachments = [] ∨
          ∃ entries, members.get? "_attachments" = some (.object entries) ∧
            ofEntries mode files entries = .ok attachments) := by
  unfold split
  cases hget : members.get? "_attachments" with
  | none =>
    rw [Table.erase_of_notMem (Table.get?_eq_none_iff.1 hget)]
    simp [eq_comm]
  | some v =>
    cases v with
    | object entries =>
      simp only [bind_eq_ok_iff, pure, Except.pure]
      simp [eq_comm, and_comm]
    | _ => simp

/-- The attachments with their files are those without, read in; nothing else makes a difference. -/
lemma split_eager_iff (others : Files) {members rest : Table Json} {loaded : List Attachment} :
    split .eager files members = .ok (rest, loaded) ↔
      ∃ attachments, split .lazy others members = .ok (rest, attachments) ∧
        List.Forall₂ (LoadsTo files) attachments loaded := by
  simp only [split_eq_ok_iff]
  constructor
  · rintro ⟨hrest, ⟨hnone, rfl⟩ | ⟨entries, hsome, hentries⟩⟩
    · exact ⟨[], ⟨hrest, .inl ⟨hnone, rfl⟩⟩, .nil⟩
    · obtain ⟨attachments, hattachments, hloads⟩ := (ofEntries_eager_iff others).1 hentries
      exact ⟨attachments, ⟨hrest, .inr ⟨entries, hsome, hattachments⟩⟩, hloads⟩
  · rintro ⟨attachments, ⟨hrest, ⟨hnone, rfl⟩ | ⟨entries, hsome, hentries⟩⟩, hloads⟩
    · exact ⟨hrest, .inl ⟨hnone, List.forall₂_nil_left_iff.1 hloads⟩⟩
    · have heager := (ofEntries_eager_iff others).2 ⟨attachments, hentries, hloads⟩
      exact ⟨hrest, .inr ⟨entries, hsome, heager⟩⟩

/-- Splitting attachments off with their files read comes to a result just when splitting them off
without does and the files that are referred to can be read. Both leave the other members as they
are and list the same attachments: the bytes of a file stand where the reference to it stands, and
everything else is the same. What files there are makes no difference as long as none is read. -/
theorem split_modes_agree (files others : Files) (members : Table Json) :
    ((∃ out, split .eager files members = .ok out) ↔
      ∃ rest attachments, split .lazy others members = .ok (rest, attachments) ∧
        ∀ a ∈ attachments, Readable files a) ∧
    ∀ rest attachments rest' loaded,
      split .lazy others members = .ok (rest, attachments) →
      split .eager files members = .ok (rest', loaded) →
      rest = members.erase "_attachments" ∧ rest' = rest ∧
        List.Forall₂ (LoadsTo files) attachments loaded := by
  constructor
  · constructor
    · rintro ⟨⟨rest, loaded⟩, heager⟩
      obtain ⟨attachments, hlazy, hloads⟩ := (split_eager_iff others).1 heager
      exact ⟨rest, attachments, hlazy, forall_readable_iff.1 ⟨loaded, hloads⟩⟩
    · rintro ⟨rest, attachments, hlazy, hreadable⟩
      obtain ⟨loaded, hloads⟩ := forall_readable_iff.2 hreadable
      exact ⟨(rest, loaded), (split_eager_iff others).2 ⟨attachments, hlazy, hloads⟩⟩
  · intro rest attachments rest' loaded hlazy heager
    obtain ⟨attachments', hlazy', hloads⟩ := (split_eager_iff others).1 heager
    cases hlazy.symm.trans hlazy'
    exact ⟨(split_eq_ok_iff.1 hlazy).1, rfl, hloads⟩

/-- An instance with a text, a file and an attachment that is only nearly a reference. -/
theorem split_modes_agree_mixed :
    let files : Files := fun path => if path = "a b.bin" then .ok [0, 255] else .error .notFound
    let entry (data : String) : Json :=
      .object [("data", .string data), ("content_type", .string "x/y")]
    let members : Table Json := [("b", .null), ("_attachments", .object [
      ("text", entry "abc"), ("file", entry " #\x7bfile( a b.bin )\x7d "),
      ("near", entry "#\x7bfile( )\x7d")]), ("a", .bool true)]
    let rest : Table Json := [("b", .null), ("a", .bool true)]
    let text : Attachment := ⟨"text", some "x/y", .inline [97, 98, 99]⟩
    let near : Attachment :=
      ⟨"near", some "x/y", .inline [35, 123, 102, 105, 108, 101, 40, 32, 41, 125]⟩
    let attachments := [text, ⟨"file", some "x/y", .file "a b.bin"⟩, near]
    let loaded := [text, ⟨"file", some "x/y", .inline [0, 255]⟩, near]
    split .lazy (fun _ => .error .notFound) members = .ok (rest, attachments) ∧
      split .eager files members = .ok (rest, loaded) ∧
      List.Forall₂ (LoadsTo files) attachments loaded := by
  intro files entry members rest text near attachments loaded
  have hlazy : split .lazy (fun _ => .error .notFound) members = .ok (rest, attachments) := by
    decide +kernel
  have heager : split .eager files members = .ok (rest, loaded) := by decide +kernel
  exact ⟨hlazy, heager, ((split_modes_agree files _ members).2 _ _ _ _ hlazy heager).2.2⟩

end CouchLoad.Attachment
