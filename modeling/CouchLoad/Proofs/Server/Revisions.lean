import CouchLoad.Couch.Operation
import CouchLoad.Proofs.Server.Acceptance

/-!
# Revisions between client and server

A client reads the revision of an answer from its text and names it by its text in the next write,
and the server compares texts. None of this mistakes a revision for another one: a revision that
denotes anything is read back as it was, and the texts are the same just if the revisions are.
-/

namespace CouchLoad

namespace Server

variable {s : Server} {db id : String} {d : StoredDocument}

lemma Tries.exists_ok_iff {proper : Prop} {out : Except Refusal Revision × Server}
    (h : s.Tries db id proper out) : (∃ rev, out.1 = .ok rev) ↔ proper := by
  cases h with
  | accept h _ => exact ⟨fun _ => h, fun _ => ⟨_, rfl⟩⟩
  | refuse h _ => exact iff_of_false (fun ⟨_, hok⟩ => nomatch hok) h

/-- A write that names a revision names what is current just if that is the revision. -/
lemma names_display_iff (hd : s.document? db id = some d) (rev : Revision) :
    s.Names db id (some rev.display) ↔ d.rev = rev := by
  obtain ⟨database, hdb, -⟩ := Option.bind_eq_some_iff.1 hd
  rw [names_iff hdb, ← document?_of_get? hdb, hd]
  constructor
  · exact fun h => Revision.display_injective (Option.some.inj h)
  · rintro rfl
    rfl

lemma writeDocument_ok_iff (hd : s.document? db id = some d) (rev : Revision) (body : Json) :
    (∃ rev', (s.writeDocument db id (some rev.display) body).1 = .ok rev') ↔ d.rev = rev := by
  rw [(tries_writeDocument s db id (some rev.display) body).exists_ok_iff, names_display_iff hd]

lemma writeAttachment_ok_iff (hd : s.document? db id = some d) (rev : Revision) (name : String)
    (attachment : StoredAttachment) :
    (∃ rev', (s.writeAttachment db id name (some rev.display) attachment).1 = .ok rev') ↔
      d.rev = rev := by
  rw [(tries_writeAttachment s db id name (some rev.display) attachment).exists_ok_iff,
    names_display_iff hd]
  exact and_iff_right rfl

end Server

namespace Revision

/-- A revision with a positive generation of 64 bits and a hash is read back from its text, from its
JSON value and from an answer that carries this; texts are the same just if the revisions are, so
the server takes a write to a document just if the revision that it names is the current one. All
texts and JSON values that are read denote such revisions, and the text of one is what was read
unless that has a sign or a zero in front. A sibling is such a revision, of the same generation. -/
theorem text_faithful :
    (∀ r : Revision, r.Readable → parse? r.display = some r ∧ ofJson? r.toJson = some r ∧
      ∀ request body, body.field "rev" = r.toJson →
        Operation.readRevision request body = .ok r) ∧
    (∀ r r' : Revision, (r.display = r'.display ↔ r = r') ∧ (r.toJson = r'.toJson ↔ r = r')) ∧
    (∀ (s : Server) (db id : String) (d : StoredDocument), s.document? db id = some d →
      ∀ r : Revision,
        (∀ body, (∃ next, (s.writeDocument db id (some r.display) body).1 = .ok next) ↔
          d.rev = r) ∧
        ∀ name attachment,
          (∃ next, (s.writeAttachment db id name (some r.display) attachment).1 = .ok next) ↔
            d.rev = r) ∧
    (∀ s r, parse? s = some r → r.Readable ∧
      (r.display = s ↔ (numeral s).head? ≠ some '+' ∧ (numeral s).head? ≠ some '0')) ∧
    (∀ v r, ofJson? v = some r → r.Readable ∧ ∃ s, v = .string s ∧ parse? s = some r) ∧
    ∀ r : Revision, r.Readable → ∀ u,
      (r.conflictingSibling u).Readable ∧ (r.conflictingSibling u).generation = r.generation := by
  refine ⟨fun r h => ?_, fun r r' => ?_, fun s db id d hd r => ?_, fun s r h => ?_,
    fun v r h => ?_, fun r h u => ?_⟩
  · have hread := parse?_display h.positive h.generation h.hash
    refine ⟨hread, hread, fun request body hbody => ?_⟩
    rw [Operation.readRevision, hbody]
    simp only [toJson, Json.string?, hread]
  · have hdisplay : r.display = r'.display ↔ r = r' :=
      ⟨display_injective, congrArg display⟩
    exact ⟨hdisplay, by rw [toJson, toJson, Json.string.injEq, hdisplay]⟩
  · exact ⟨Server.writeDocument_ok_iff hd r, Server.writeAttachment_ok_iff hd r⟩
  · exact ⟨readable_of_parse? h, display_eq_iff_of_parse? h⟩
  · obtain ⟨s, hv, hs⟩ := ofJson?_eq_some_iff.1 h
    exact ⟨readable_of_parse? hs, s, hv, hs⟩
  · exact ⟨readable_sibling h.positive h.generation u, rfl⟩

/-- The greatest generation with a hash that holds a hyphen is read back, and a generation with a
sign is not written as it was read. -/
theorem text_faithful_hyphen :
    parse? "18446744073709551615-a-b" = some ⟨18446744073709551615, "a-b"⟩ ∧
      parse? "+7-a" = some ⟨7, "a"⟩ ∧ (⟨7, "a"⟩ : Revision).display ≠ "+7-a" := by
  obtain ⟨hread, -, -, hwritten, -⟩ := text_faithful
  have hplus : parse? "+7-a" = some ⟨7, "a"⟩ := by decide
  refine ⟨(hread ⟨18446744073709551615, "a-b"⟩ ⟨by decide, by decide, by decide⟩).1, hplus, ?_⟩
  rw [Ne, (hwritten _ _ hplus).2]
  decide

end Revision

end CouchLoad
