import CouchLoad.Server.Handle
import Mathlib.Tactic.Common

/-!
# What responses leave alone

No response touches the log or the failures that are pending, and no hash is given out twice: their
number never goes down.
-/

namespace CouchLoad.Server

/-- Two states of a server with nothing but responses between them. -/
structure Precedes (s t : Server) : Prop where
  requests : t.requests = s.requests
  pending : t.pendingFailures = s.pendingFailures
  hashes : s.hashes ≤ t.hashes

namespace Precedes

lemma refl (s : Server) : Precedes s s := ⟨rfl, rfl, Nat.le_refl _⟩

lemma trans {s t u : Server} (h : Precedes s t) (h' : Precedes t u) : Precedes s u :=
  ⟨h'.requests.trans h.requests, h'.pending.trans h.pending, Nat.le_trans h.hashes h'.hashes⟩

end Precedes

lemma precedes_putDatabase (s : Server) (db : String) (database : Database) :
    Precedes s (s.putDatabase db database) := ⟨rfl, rfl, Nat.le_refl _⟩

lemma precedes_putDocument (s : Server) (db : String) (database : Database) (id : String)
    (d : StoredDocument) : Precedes s (s.putDocument db database id d) := ⟨rfl, rfl, Nat.le_refl _⟩

lemma precedes_freshHash (s : Server) : Precedes s s.freshHash.2 := ⟨rfl, rfl, Nat.le_succ _⟩

lemma precedes_writeDocument (s : Server) (db id : String) (rev : Option String) (body : Json) :
    Precedes s (s.writeDocument db id rev body).2 := by
  apply (precedes_freshHash s).trans
  unfold writeDocument
  simp only
  split
  · exact Precedes.refl _
  · split
    · exact precedes_putDocument ..
    · split
      · exact precedes_putDocument ..
      · exact Precedes.refl _
    · exact Precedes.refl _

lemma precedes_writeAttachment (s : Server) (db id name : String) (rev : Option String)
    (attachment : StoredAttachment) :
    Precedes s (s.writeAttachment db id name rev attachment).2 := by
  apply (precedes_freshHash s).trans
  unfold writeAttachment
  simp only
  split
  · exact Precedes.refl _
  · split
    · exact Precedes.refl _
    · split
      · exact precedes_putDocument ..
      · exact Precedes.refl _

lemma precedes_entryId (s : Server) (entry : Json) : Precedes s (s.entryId entry).2 := by
  unfold entryId
  split
  · exact Precedes.refl _
  · exact precedes_freshHash s

lemma precedes_writeEntry (s : Server) (db : String) (entry : Json) :
    Precedes s (s.writeEntry db entry).2 := by
  apply (precedes_entryId s entry).trans
  have := precedes_writeDocument (s.entryId entry).2 db (s.entryId entry).1
    (entry.field "_rev").string? entry
  unfold writeEntry
  simp only
  split <;> simp_all

lemma precedes_replicateEntry (s : Server) (db : String) (entry : Json) :
    Precedes s (s.replicateEntry db entry).2 := by
  unfold replicateEntry
  simp only
  split
  · exact Precedes.refl _
  · split
    · exact Precedes.refl _
    · exact precedes_putDocument ..

lemma precedes_writeEntries (s : Server) (db : String) (entries : List Json) :
    Precedes s (s.writeEntries db entries).2 := by
  induction entries generalizing s with
  | nil => exact Precedes.refl s
  | cons entry entries ih => exact (precedes_writeEntry s db entry).trans (ih _)

lemma precedes_replicateEntries (s : Server) (db : String) (entries : List Json) :
    Precedes s (s.replicateEntries db entries).2 := by
  induction entries generalizing s with
  | nil => exact Precedes.refl s
  | cons entry entries ih => exact (precedes_replicateEntry s db entry).trans (ih _)

lemma precedes_writeBulk (s : Server) (db : String) (body : Json) :
    Precedes s (s.writeBulk db body).2 := by
  unfold writeBulk
  split
  · exact Precedes.refl s
  · split
    · exact Precedes.refl s
    · simp only
      split
      · exact precedes_writeEntries ..
      · exact precedes_replicateEntries ..

lemma precedes_execute (s : Server) (files : Files) (r : Request) (command : Command) :
    Precedes s (s.execute files r command).2 := by
  cases command with
  | createDatabase db =>
    simp only [execute]
    split
    · exact Precedes.refl s
    · exact precedes_putDatabase ..
  | deleteDatabase db =>
    simp only [execute]
    split
    · exact ⟨rfl, rfl, Nat.le_refl _⟩
    · exact Precedes.refl s
  | putSecurity db =>
    simp only [execute]
    split
    · exact precedes_putDatabase ..
    · exact Precedes.refl s
  | writeBulk db =>
    have := precedes_writeBulk s db (jsonBody r)
    simp only [execute]
    split <;> simp_all
  | writeDocument db id =>
    have := precedes_writeDocument s db id
      ((r.queryParam? "rev").or ((jsonBody r).field "_rev").string?) (jsonBody r)
    simp only [execute, answerWrite]
    split <;> simp_all
  | writeAttachment db id name =>
    simp only [execute, answerWrite]
    split
    · exact Precedes.refl s
    · rename_i bytes _
      have := precedes_writeAttachment s db id name (r.queryParam? "rev") ⟨r.contentType, bytes⟩
      split <;> simp_all

/-- A response leaves the log and the pending failures alone. -/
theorem precedes_respond (s : Server) (files : Files) (r : Request) :
    Precedes s (s.respond files r).2 := by
  unfold respond
  split
  · exact precedes_execute ..
  · exact Precedes.refl s

/-- While nothing is pending, a request is logged and responded to. -/
lemma handle_of_calm {s : Server} (h : s.pendingFailures = 0) (files : Files) (r : Request) :
    s.handle files r = ({ s with requests := s.requests.push r } : Server).respond files r :=
  if_neg (by simp [h])

/-- While failures are pending, a request is logged and dropped. -/
lemma handle_of_pending {s : Server} (h : s.pendingFailures ≠ 0) (files : Files) (r : Request) :
    s.handle files r = (.error (.disconnected "injected failure"),
      { s with requests := s.requests.push r, pendingFailures := s.pendingFailures - 1 }) :=
  if_pos (Nat.pos_of_ne_zero h)

/-- One request after the other uses the pending failures up. -/
lemma pendingFailures_handle (s : Server) (files : Files) (r : Request) :
    (s.handle files r).2.pendingFailures = s.pendingFailures - 1 := by
  by_cases h : s.pendingFailures = 0
  · rw [handle_of_calm h, (precedes_respond _ files r).pending, h]
  · rw [handle_of_pending h]

end CouchLoad.Server
