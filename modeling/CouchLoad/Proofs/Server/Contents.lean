import CouchLoad.Server.Handle
import Mathlib.Tactic.Common

/-!
# What responses depend on

A response depends on the databases and on the number of hashes, and on nothing else that the server
keeps. So two servers that agree on these respond alike, and agree afterwards.
-/

namespace CouchLoad.Server

/-- Two states of a server with the same databases, which give out the same hashes. -/
structure Agrees (s t : Server) : Prop where
  databases : t.databases = s.databases
  hashes : t.hashes = s.hashes

/-- Two computations that end with the same value and with states that agree. -/
structure Alike {α : Type} (out out' : α × Server) : Prop where
  value : out'.1 = out.1
  agrees : Agrees out.2 out'.2

variable {s t : Server}

lemma Alike.map {α β : Type} {out out' : α × Server} (h : Alike out out') (f : α → β) :
    Alike (f out.1, out.2) (f out'.1, out'.2) := ⟨congrArg f h.value, h.agrees⟩

lemma Agrees.putDatabase (h : Agrees s t) (db : String) (database : Database) :
    Agrees (s.putDatabase db database) (t.putDatabase db database) :=
  ⟨congrArg (·.insert db database) h.databases, h.hashes⟩

lemma alike_freshHash (h : Agrees s t) : Alike s.freshHash t.freshHash := by
  unfold freshHash
  simp only [h.hashes]
  exact ⟨rfl, h.databases, rfl⟩

lemma alike_writeDocument (h : Agrees s t) (db id : String) (rev : Option String) (body : Json) :
    Alike (s.writeDocument db id rev body) (t.writeDocument db id rev body) := by
  obtain ⟨hhash, hfresh⟩ := alike_freshHash h
  unfold writeDocument
  simp only [hhash, hfresh.databases]
  split
  · exact ⟨rfl, hfresh⟩
  · split
    · exact ⟨rfl, hfresh.putDatabase _ _⟩
    · split
      · exact ⟨rfl, hfresh.putDatabase _ _⟩
      · exact ⟨rfl, hfresh⟩
    · exact ⟨rfl, hfresh⟩

lemma alike_writeAttachment (h : Agrees s t) (db id name : String) (rev : Option String)
    (attachment : StoredAttachment) :
    Alike (s.writeAttachment db id name rev attachment)
      (t.writeAttachment db id name rev attachment) := by
  obtain ⟨hhash, hfresh⟩ := alike_freshHash h
  unfold writeAttachment
  simp only [hhash, hfresh.databases]
  split
  · exact ⟨rfl, hfresh⟩
  · split
    · exact ⟨rfl, hfresh⟩
    · split
      · exact ⟨rfl, hfresh.putDatabase _ _⟩
      · exact ⟨rfl, hfresh⟩

/-! ### Bulk writes -/

lemma alike_entryId (h : Agrees s t) (entry : Json) :
    Alike (s.entryId entry) (t.entryId entry) := by
  unfold entryId
  split
  · exact ⟨rfl, h⟩
  · exact (alike_freshHash h).map ("generated-" ++ ·)

lemma alike_writeEntry (h : Agrees s t) (db : String) (entry : Json) :
    Alike (s.writeEntry db entry) (t.writeEntry db entry) := by
  obtain ⟨hid, hentry⟩ := alike_entryId h entry
  obtain ⟨hresult, hwrite⟩ := alike_writeDocument hentry db (s.entryId entry).1
    (entry.field "_rev").string? entry
  unfold writeEntry
  simp only [hid]
  generalize (s.entryId entry).2.writeDocument db _ _ _ = out at hresult hwrite
  generalize (t.entryId entry).2.writeDocument db _ _ _ = out' at hresult hwrite
  obtain ⟨result, u⟩ := out
  obtain ⟨result', u'⟩ := out'
  subst hresult
  cases result' with
  | ok rev => exact ⟨rfl, hwrite⟩
  | error refusal => exact ⟨rfl, hwrite⟩

lemma alike_replicateEntry (h : Agrees s t) (db : String) (entry : Json) :
    Alike (s.replicateEntry db entry) (t.replicateEntry db entry) := by
  unfold replicateEntry
  simp only [h.databases]
  split
  · exact ⟨rfl, h⟩
  · split
    · exact ⟨rfl, h⟩
    · exact ⟨rfl, h.putDatabase _ _⟩

lemma alike_writeEntries (h : Agrees s t) (db : String) (entries : List Json) :
    Alike (s.writeEntries db entries) (t.writeEntries db entries) := by
  induction entries generalizing s t with
  | nil => exact ⟨rfl, h⟩
  | cons entry entries ih =>
    obtain ⟨hresult, hentry⟩ := alike_writeEntry h db entry
    obtain ⟨hresults, hrest⟩ := ih hentry
    exact ⟨congrArg₂ List.cons hresult hresults, hrest⟩

lemma alike_replicateEntries (h : Agrees s t) (db : String) (entries : List Json) :
    Alike (s.replicateEntries db entries) (t.replicateEntries db entries) := by
  induction entries generalizing s t with
  | nil => exact ⟨rfl, h⟩
  | cons entry entries ih =>
    obtain ⟨hresult, hentry⟩ := alike_replicateEntry h db entry
    obtain ⟨hresults, hrest⟩ := ih hentry
    exact ⟨congrArg₂ (fun result results => result.toList ++ results) hresult hresults, hrest⟩

lemma alike_writeBulk (h : Agrees s t) (db : String) (body : Json) :
    Alike (s.writeBulk db body) (t.writeBulk db body) := by
  unfold writeBulk
  rw [h.databases]
  split
  · exact ⟨rfl, h⟩
  · cases (body.field "docs").array? with
    | none => exact ⟨rfl, h⟩
    | some entries =>
      simp only
      split
      · exact (alike_writeEntries h db entries).map Except.ok
      · exact (alike_replicateEntries h db entries).map Except.ok

/-! ### Requests -/

lemma Alike.answerWrite {out out' : Except Refusal Revision × Server} (h : Alike out out')
    (id : String) : Alike (answerWrite id out) (answerWrite id out') := by
  obtain ⟨result, u⟩ := out
  obtain ⟨result', u'⟩ := out'
  obtain ⟨rfl, hagrees⟩ := h
  cases result' with
  | ok rev => exact ⟨rfl, hagrees⟩
  | error refusal => exact ⟨rfl, hagrees⟩

lemma alike_execute (h : Agrees s t) (files : Files) (r : Request) (command : Command) :
    Alike (s.execute files r command) (t.execute files r command) := by
  cases command with
  | createDatabase db =>
    simp only [execute, h.databases]
    split
    · exact ⟨rfl, h⟩
    · exact ⟨rfl, h.putDatabase _ _⟩
  | deleteDatabase db =>
    simp only [execute, h.databases]
    split
    · exact ⟨rfl, rfl, h.hashes⟩
    · exact ⟨rfl, h⟩
  | putSecurity db =>
    simp only [execute, h.databases]
    split
    · exact ⟨rfl, h.putDatabase _ _⟩
    · exact ⟨rfl, h⟩
  | writeBulk db =>
    obtain ⟨hresults, hbulk⟩ := alike_writeBulk h db (jsonBody r)
    simp only [execute]
    generalize s.writeBulk db (jsonBody r) = out at hresults hbulk
    generalize t.writeBulk db (jsonBody r) = out' at hresults hbulk
    obtain ⟨results, u⟩ := out
    obtain ⟨results', u'⟩ := out'
    subst hresults
    cases results' with
    | ok results => exact ⟨rfl, hbulk⟩
    | error refusal => exact ⟨rfl, hbulk⟩
  | writeDocument db id =>
    have hwrite := alike_writeDocument h db id
      ((r.queryParam? "rev").or ((jsonBody r).field "_rev").string?) (jsonBody r)
    exact (hwrite.answerWrite id).map Except.ok
  | writeAttachment db id name =>
    simp only [execute]
    cases bodyBytes files r.body with
    | error e => exact ⟨rfl, h⟩
    | ok bytes =>
      have hwrite := alike_writeAttachment h db id name (r.queryParam? "rev")
        ⟨r.contentType, bytes⟩
      exact (hwrite.answerWrite id).map Except.ok

/-- Servers that agree respond alike. -/
theorem alike_respond (h : Agrees s t) (files : Files) (r : Request) :
    Alike (s.respond files r) (t.respond files r) := by
  unfold respond
  cases Command.of? r with
  | none => exact ⟨rfl, h⟩
  | some command => exact alike_execute h files r command

lemma bodyBytes_not_retryable {files : Files} {body : Body} {e : TransportError}
    (h : bodyBytes files body = .error e) : e.isRetryable = false := by
  cases body with
  | file path =>
    rw [bodyBytes] at h
    cases hfile : files path with
    | error fault =>
      rw [hfile] at h
      cases h
      rfl
    | ok bytes => rw [hfile] at h; cases h
  | empty => cases h
  | json v => cases h
  | bytes bytes => cases h

/-- The only errors that come from a response are about files that cannot be read, and no new
connection helps there. -/
lemma respond_not_retryable {files : Files} {r : Request} {e : TransportError}
    (h : (s.respond files r).1 = .error e) : e.isRetryable = false := by
  unfold respond at h
  cases hcommand : Command.of? r with
  | none => rw [hcommand] at h; cases h
  | some command =>
    rw [hcommand] at h
    cases command with
    | writeAttachment db id name =>
      simp only [execute] at h
      cases hbytes : bodyBytes files r.body with
      | error e' =>
        rw [hbytes] at h
        cases h
        exact bodyBytes_not_retryable hbytes
      | ok bytes => rw [hbytes] at h; cases h
    | writeDocument db id => cases h
    | createDatabase db => simp only [execute] at h; split at h <;> cases h
    | deleteDatabase db => simp only [execute] at h; split at h <;> cases h
    | putSecurity db => simp only [execute] at h; split at h <;> cases h
    | writeBulk db => simp only [execute] at h; split at h <;> cases h

end CouchLoad.Server
