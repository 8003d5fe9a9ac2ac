import CouchLoad.Document.Basic
import CouchLoad.Proofs.Document.Attachments
import CouchLoad.Server.Write

/-!
# What a server reads in a body

The fields of a generated document have names of their own, and none of them is one of the names
that a body uses for the id, the revision and the attachments. So the server finds in a body just
what was put into it.
-/

namespace CouchLoad

/-- The names that a body uses for itself. -/
def Document.reserved : List String := ["_id", "_rev", "_attachments"]

/-- The fields of a document have different names, none of which is reserved. -/
structure Document.WellFormed (d : Document) : Prop where
  nodup : d.fields.keys.Nodup
  notReserved : ∀ name ∈ reserved, name ∉ d.fields.keys

namespace Document

/-- The members of a body in front of the fields. -/
def header (d : Document) : Table Json :=
  ("_id", .string d.id) :: (d.rev.map fun rev => ("_rev", Json.string rev)).toList

lemma WellFormed.withRev {d : Document} (h : d.WellFormed) (rev : Option String) :
    WellFormed { d with rev } := ⟨h.nodup, h.notReserved⟩

lemma keys_header (d : Document) : ∀ key ∈ d.header.keys, key = "_id" ∨ key = "_rev" := by
  cases h : d.rev <;> simp [header, h]

/-- A body starts with the id and the revision; the fields follow as they are. -/
lemma WellFormed.members_eq {d : Document} (h : d.WellFormed) :
    d.members = d.header ++ d.fields := by
  have hheader : d.members =
      d.fields.foldl (fun t entry => Table.insert t entry.1 entry.2) d.header := by
    unfold members header
    cases d.rev <;> rfl
  rw [hheader, Table.foldl_insert_of_nodup _ _ h.nodup]
  intro key hkey hmem
  rcases keys_header d key hmem with rfl | rfl
  · exact h.notReserved "_id" (by decide) hkey
  · exact h.notReserved "_rev" (by decide) hkey

lemma WellFormed.attachments_notMem {d : Document} (h : d.WellFormed) :
    "_attachments" ∉ d.members.keys := by
  rw [h.members_eq, Table.keys_append, List.mem_append, not_or]
  refine ⟨fun hmem => ?_, h.notReserved "_attachments" (by decide)⟩
  rcases keys_header d _ hmem with heq | heq <;> exact absurd heq (by decide)

/-- The members of a body among others: the attachments come last. -/
lemma WellFormed.bulkBody_eq {d : Document} (h : d.WellFormed) :
    ∃ tail : Table Json, (∀ key ∈ tail.keys, key = "_attachments") ∧
      d.bulkBody = .object (d.members ++ tail) := by
  unfold bulkBody
  split
  · exact ⟨[], by simp, by rw [List.append_nil]; rfl⟩
  · refine ⟨[("_attachments", .object d.stubs)], by simp, ?_⟩
    rw [Table.insert_of_notMem h.attachments_notMem]

/-! ### Members of bodies -/

lemma get?_append_of_notMem {s t : Table Json} {key : String} (h : key ∉ t.keys) :
    Table.get? (s ++ t) key = s.get? key := by
  induction s with
  | nil => rw [List.nil_append, Table.get?_eq_none_iff.2 h, Table.get?_nil]
  | cons entry s ih =>
    obtain ⟨k, v⟩ := entry
    rw [List.cons_append, Table.get?_cons, Table.get?_cons, ih]

lemma WellFormed.get?_id {d : Document} (h : d.WellFormed) (tail : Table Json) :
    Table.get? (d.members ++ tail) "_id" = some (.string d.id) := by
  rw [h.members_eq, header, List.cons_append, List.cons_append, Table.get?_cons, if_pos rfl]

lemma WellFormed.get?_rev {d : Document} (h : d.WellFormed) {tail : Table Json}
    (htail : ∀ key ∈ tail.keys, key = "_attachments") :
    Table.get? (d.members ++ tail) "_rev" = d.rev.map Json.string := by
  have htail' : "_rev" ∉ tail.keys := fun hmem => absurd (htail _ hmem) (by decide)
  rw [get?_append_of_notMem htail', h.members_eq,
    get?_append_of_notMem (h.notReserved "_rev" (by decide))]
  cases hrev : d.rev <;> simp [header, hrev, Table.get?_cons, Table.get?_nil]

lemma WellFormed.erase_members {d : Document} (h : d.WellFormed) {tail : Table Json}
    (htail : ∀ key ∈ tail.keys, key = "_attachments") :
    (((d.members ++ tail : Table Json).erase "_id").erase "_rev").erase "_attachments" =
      d.fields := by
  have hheader : ((d.header.erase "_id").erase "_rev").erase "_attachments" = [] := by
    cases hrev : d.rev <;> simp [header, hrev, Table.erase]
  have htail' : ((tail.erase "_id").erase "_rev").erase "_attachments" = [] := by
    refine List.filter_eq_nil_iff.2 fun entry hentry => ?_
    have hmem : entry ∈ tail := (List.mem_filter.1 (List.mem_filter.1 hentry).1).1
    simpa using htail entry.1 (List.mem_map_of_mem hmem)
  simp only [h.members_eq, Table.erase_append, hheader, htail', List.nil_append, List.append_nil]
  rw [Table.erase_of_notMem (h.notReserved "_id" (by decide)),
    Table.erase_of_notMem (h.notReserved "_rev" (by decide)),
    Table.erase_of_notMem (h.notReserved "_attachments" (by decide))]

/-- What the server reads in the body of a document that is written alone or among others. -/
structure ReadsAs (body : Json) (d : Document) : Prop where
  id : (body.field "_id").string? = some d.id
  rev : (body.field "_rev").string? = d.rev
  fields : StoredDocument.fieldsOf body = d.fields

lemma WellFormed.readsAs {d : Document} (h : d.WellFormed) {tail : Table Json}
    (htail : ∀ key ∈ tail.keys, key = "_attachments") :
    ReadsAs (.object (d.members ++ tail)) d where
  id := by simp [Json.field, h.get?_id tail, Json.string?]
  rev := by
    simp only [Json.field, h.get?_rev htail]
    cases d.rev <;> rfl
  fields := h.erase_members htail

lemma WellFormed.body_readsAs {d : Document} (h : d.WellFormed) : ReadsAs d.body d := by
  have hnone : ∀ key ∈ Table.keys ([] : Table Json), key = "_attachments" := by simp
  have := h.readsAs hnone
  rwa [List.append_nil] at this

lemma WellFormed.bulkBody_readsAs {d : Document} (h : d.WellFormed) : ReadsAs d.bulkBody d := by
  obtain ⟨tail, htail, heq⟩ := h.bulkBody_eq
  rw [heq]
  exact h.readsAs htail

/-! ### Documents made from values -/

/-- A document is made of the members that are left when the attachments are split off. -/
lemma ofJson_eq_ok_iff {mode : AttachmentMode} {files : Files} {fresh : Entropy.Uuid} {v : Json}
    {d : Document} :
    ofJson mode files fresh v = .ok d ↔
      ∃ members rest, v = .object members ∧
        Attachment.split mode files members = .ok (rest, d.attachments) ∧
        idOf fresh (rest.get? "_id") = .ok d.id ∧ d.rev = (rest.get? "_rev").bind Json.string? ∧
        d.fields = (rest.erase "_id").erase "_rev" := by
  constructor
  · intro h
    cases v with
    | object members =>
      obtain ⟨⟨rest, attachments⟩, hsplit, h⟩ := bind_eq_ok_iff.1 h
      obtain ⟨id, hid, h⟩ := bind_eq_ok_iff.1 h
      cases h
      exact ⟨members, rest, rfl, hsplit, hid, rfl, rfl⟩
    | _ => cases h
  · rintro ⟨members, rest, rfl, hsplit, hid, hrev, hfields⟩
    obtain ⟨id, rev, fields, attachments⟩ := d
    dsimp only at hsplit hid hrev hfields
    rw [hrev, hfields]
    exact bind_eq_ok_iff.2 ⟨_, hsplit, bind_eq_ok_iff.2 ⟨_, hid, rfl⟩⟩

lemma wellFormed_of_ofJson {mode : AttachmentMode} {files : Files} {fresh : Entropy.Uuid}
    {members : Table Json} {d : Document} (hmembers : members.keys.Nodup)
    (h : ofJson mode files fresh (.object members) = .ok d) : d.WellFormed := by
  obtain ⟨_, rest, heq, hsplit, -, -, hfields⟩ := ofJson_eq_ok_iff.1 h
  cases heq
  obtain ⟨rfl, -⟩ := Attachment.split_eq_ok_iff.1 hsplit
  constructor
  · rw [hfields]
    exact Table.nodup_keys_erase (Table.nodup_keys_erase (Table.nodup_keys_erase hmembers _) _) _
  · intro name hname
    simp only [reserved, List.mem_cons, List.not_mem_nil, or_false] at hname
    rcases hname with rfl | rfl | rfl <;> simp [hfields, Table.keys_erase]

end Document

end CouchLoad
