import CouchLoad.Proofs.Load.Team
import CouchLoad.Proofs.Server.Acceptance
import CouchLoad.Proofs.Server.Histories
import CouchLoad.Simulation.Losses

/-!
# Services that check revisions

A service that checks revisions accepts a write to a document just if it names the current revision,
and then answers with a new one. The server in memory is such a service, as long as its generations
have 64 bits.
-/

namespace CouchLoad

/-- The revision that a write names, in its query or in its body. -/
def Request.base? (r : Request) : Option String :=
  (r.queryParam? "rev").or ((Server.jsonBody r).field "_rev").string?

/-- A write of a document, or of an attachment on top of a revision of its document. -/
inductive Request.Writes (db id : String) (r : Request) : Prop where
  | document (method : r.method = .put) (path : r.path = [db, id]) (value : Json)
      (body : r.body = .json value)
  | attachment (name : String) (method : r.method = .put) (path : r.path = [db, id, name])
      (rev : (r.queryParam? "rev").isSome)

/-- What it means that a service checks the revisions of a document. The history of the document is
the list of all its revisions, oldest first, and the service is ready for a number of writes. -/
structure Service.Checks {ω : Type} (v : Service ω) (files : Files) (db id : String) where
  history : ω → List Revision
  Ready : Nat → ω → Prop
  weaken : ∀ {n s}, Ready (n + 1) s → Ready n s
  /-- A write that names the current revision is accepted, and the answer has the next one. -/
  accept : ∀ {n s r}, Ready (n + 1) s → r.Writes db id →
    (∃ bytes, Server.bodyBytes files r.body = .ok bytes) →
    r.base? = (history s).getLast?.map Revision.display →
    ∃ response rev, (v.handle s files r).1 = .ok response ∧
      (Operation.accepted r (Operation.readRevision r)).read response = .ok rev ∧
      rev ∉ history s ∧ history (v.handle s files r).2 = history s ++ [rev] ∧
      Ready n (v.handle s files r).2
  /-- Any other write is refused. -/
  refuse : ∀ {n s r}, Ready n s → r.Writes db id →
    (∃ bytes, Server.bodyBytes files r.body = .ok bytes) →
    r.base? ≠ (history s).getLast?.map Revision.display →
    ∃ response, (v.handle s files r).1 = .ok response ∧ response.isSuccess = false ∧
      history (v.handle s files r).2 = history s ∧ Ready n (v.handle s files r).2
  /-- What cannot be read cannot be sent. -/
  unsent : ∀ {n s r e}, Ready n s → r.Writes db id → Server.bodyBytes files r.body = .error e →
    (v.handle s files r).1 = .error e ∧ history (v.handle s files r).2 = history s ∧
      Ready n (v.handle s files r).2
  reconnect : ∀ {n s}, Ready n s →
    history (v.reconnect s) = history s ∧ Ready n (v.reconnect s)

namespace StoredDocument

/-- The current revision has the highest generation. -/
lemma WellKept.generation_le {d : StoredDocument} (h : d.WellKept) :
    ∀ rev ∈ d.history, rev.generation ≤ d.rev.generation := by
  obtain ⟨earlier, hlast⟩ := List.getLast?_eq_some_iff.1 h.current
  have hsorted : (d.history.map (·.generation)).Pairwise (· ≤ ·) := by
    refine List.isChain_iff_pairwise.1 (List.isChain_map_of_isChain _ ?_ h.generations)
    exact fun older newer hnext => hnext ▸ Nat.le_succ _
  rw [hlast, List.map_append, List.pairwise_append] at hsorted
  intro rev hrev
  rw [hlast] at hrev
  rcases List.mem_append.1 hrev with hearlier | hcurrent
  · exact hsorted.2.2 _ (List.mem_map_of_mem hearlier) _ (List.mem_singleton.2 rfl)
  · rw [List.mem_singleton.1 hcurrent]

end StoredDocument

namespace Server

variable {s : Server} {db id : String}

/-- The revisions of a document, oldest first. -/
def revisions (db id : String) (s : Server) : List Revision :=
  ((s.document? db id).map (·.history)).getD []

/-- The server is there for a number of writes to a document before its generations are used up. -/
structure ReadyFor (db id : String) (n : Nat) (s : Server) : Prop where
  pending : s.pendingFailures = 0
  database : s.databases.contains db = true
  wellKept : ∀ d, s.document? db id = some d → d.WellKept
  bound : ((s.document? db id).map (·.rev.generation)).getD 0 + n < 2 ^ 64

lemma ReadyFor.names_iff {n : Nat} (h : s.ReadyFor db id n) {rev : Option String} :
    s.Names db id rev ↔ rev = (revisions db id s).getLast?.map Revision.display := by
  have hcurrent : currentText (s.document? db id) =
      (revisions db id s).getLast?.map Revision.display := by
    unfold revisions currentText
    cases hd : s.document? db id with
    | none => rfl
    | some d => simp [(h.wellKept d hd).current]
  rw [← hcurrent]
  exact ⟨fun hnames => hnames.current.symm, fun heq => ⟨h.database, heq.symm⟩⟩

/-- A write that is accepted adds a revision of its own to the history. -/
lemma ReadyFor.advance {n : Nat} (h : s.ReadyFor db id (n + 1)) {d : StoredDocument} {t : Server}
    (hadvances : s.Advances db id d t) (hpending : t.pendingFailures = 0) :
    revisions db id t = revisions db id s ++ [d.rev] ∧ d.rev ∉ revisions db id s ∧
      d.rev.Readable ∧ t.ReadyFor db id n := by
  have hhere := hadvances.putsDocument.here
  have hsucceeds := hadvances.succeeds
  have hgeneration := hsucceeds.generation
  have hbound := h.bound
  have hhistory : revisions db id t = revisions db id s ++ [d.rev] := by
    rw [revisions, hhere]
    exact hsucceeds.history
  refine ⟨hhistory, ?_, ⟨by omega, by omega, ?_⟩, hpending, ?_, ?_, ?_⟩
  · intro hmem
    unfold revisions at hmem
    cases hold : s.document? db id with
    | none => rw [hold] at hmem; cases hmem
    | some old =>
      rw [hold] at hmem hgeneration
      have hle := (h.wellKept old hold).generation_le _ hmem
      simp only [Option.map_some, Option.getD_some] at hgeneration
      omega
  · rw [hadvances.hash]
    intro hnil
    exact Text.hex_ne_nil 32 _ (by simpa [freshHash] using congrArg String.toList hnil)
  · rw [hadvances.contains, h.database]
  · intro d' hd'
    rw [hhere, Option.some.injEq] at hd'
    rw [← hd']
    exact hsucceeds.wellKept h.wellKept
  · rw [hhere]
    simp only [Option.map_some, Option.getD_some]
    omega

lemma Tries.congr {proper proper' : Prop} {out : Except Refusal Revision × Server}
    (h : s.Tries db id proper out) (hiff : proper ↔ proper') : s.Tries db id proper' out := by
  rwa [propext hiff] at h

/-- What a write asks the server to do. -/
lemma command_of_writes {r : Request} (hid : id ≠ "_security") (hr : r.Writes db id) :
    Command.of? r = some (.writeDocument db id) ∨
      ∃ name, Command.of? r = some (.writeAttachment db id name) ∧ r.base? = r.queryParam? "rev" ∧
        (r.queryParam? "rev").isSome := by
  cases hr with
  | document method path value body =>
    refine .inl ?_
    unfold Command.of?
    rw [method, path]
    split <;> simp_all
  | attachment name method path rev =>
    obtain ⟨rev, hrev⟩ := Option.isSome_iff_exists.1 rev
    refine .inr ⟨name, ?_, ?_, by rw [hrev]; rfl⟩
    · unfold Command.of?
      rw [method, path]
      split <;> simp_all
    · rw [Request.base?, hrev, Option.some_or]

/-- A write whose body can be sent is tried. -/
lemma tries_handle (hid : id ≠ "_security") (hpending : s.pendingFailures = 0) {files : Files}
    {r : Request} (hr : r.Writes db id) {bytes : List UInt8}
    (hbytes : bodyBytes files r.body = .ok bytes) :
    ∃ out, ({ s with requests := s.requests.push r } : Server).Tries db id
        (s.Names db id r.base?) out ∧
      s.handle files r = (.ok (answerWrite id out).1, (answerWrite id out).2) := by
  have hsame : ∀ rev, ({ s with requests := s.requests.push r } : Server).Names db id rev ↔
      s.Names db id rev := fun rev => ⟨fun h => h.congr rfl rfl, fun h => h.congr rfl rfl⟩
  rw [handle_of_calm hpending]
  unfold respond
  rcases command_of_writes hid hr with hcommand | ⟨name, hcommand, hbase, hrev⟩
  · rw [hcommand]
    exact ⟨_, (tries_writeDocument _ db id r.base? (jsonBody r)).congr (hsame _), rfl⟩
  · rw [hcommand]
    simp only [execute, hbytes]
    refine ⟨_, (tries_writeAttachment _ db id name (r.queryParam? "rev")
      ⟨r.contentType, bytes⟩).congr ?_, rfl⟩
    rw [hsame, hbase]
    exact and_iff_right hrev

/-- What cannot be sent does not come to be tried. -/
lemma handle_unsent (hpending : s.pendingFailures = 0) {files : Files} {r : Request}
    (hr : r.Writes db id) {e : TransportError} (herror : bodyBytes files r.body = .error e) :
    s.handle files r = (.error e, { s with requests := s.requests.push r }) := by
  cases hr with
  | document method path value body =>
    rw [body] at herror
    cases herror
  | attachment name method path rev =>
    have hcommand : Command.of? r = some (.writeAttachment db id name) := by
      unfold Command.of?
      rw [method, path]
      split <;> simp_all
    rw [handle_of_calm hpending]
    unfold respond
    rw [hcommand]
    simp only [execute, herror]

section Answers

variable {files : Files} {r : Request} {n : Nat}

/-- Logging a request leaves the documents alone. -/
lemma ReadyFor.log (h : s.ReadyFor db id n) (r : Request) :
    ({ s with requests := s.requests.push r } : Server).ReadyFor db id n :=
  ⟨h.pending, h.database, h.wellKept, h.bound⟩

lemma ReadyFor.weaken (h : s.ReadyFor db id (n + 1)) : s.ReadyFor db id n :=
  ⟨h.pending, h.database, h.wellKept, Nat.lt_of_succ_lt h.bound⟩

lemma ReadyFor.accepts (h : s.ReadyFor db id (n + 1)) (hid : id ≠ "_security")
    (hr : r.Writes db id) (hbody : ∃ bytes, bodyBytes files r.body = .ok bytes)
    (hbase : r.base? = (revisions db id s).getLast?.map Revision.display) :
    ∃ response rev, (s.handle files r).1 = .ok response ∧
      (Operation.accepted r (Operation.readRevision r)).read response = .ok rev ∧
      rev ∉ revisions db id s ∧
      revisions db id (s.handle files r).2 = revisions db id s ++ [rev] ∧
      (s.handle files r).2.ReadyFor db id n := by
  obtain ⟨bytes, hbytes⟩ := hbody
  obtain ⟨out, htries, hhandle⟩ := tries_handle hid h.pending hr hbytes
  have hserver := congrArg Prod.snd hhandle
  cases htries with
  | refuse hnot refusal => exact absurd (h.names_iff.2 hbase) hnot
  | @accept _ d t advances =>
    have hpending : t.pendingFailures = 0 := by
      have hcalm := pendingFailures_handle s files r
      rwa [hserver, h.pending] at hcalm
    obtain ⟨hhistory, hfresh, hreadable, hready⟩ := (h.log r).advance advances hpending
    refine ⟨⟨201, written id d.rev⟩, d.rev, congrArg Prod.fst hhandle,
      Operation.readRevision_written _ id hreadable, hfresh, ?_⟩
    rw [hserver]
    exact ⟨hhistory, hready⟩

lemma ReadyFor.refuses (h : s.ReadyFor db id n) (hid : id ≠ "_security")
    (hr : r.Writes db id) (hbody : ∃ bytes, bodyBytes files r.body = .ok bytes)
    (hbase : r.base? ≠ (revisions db id s).getLast?.map Revision.display) :
    ∃ response, (s.handle files r).1 = .ok response ∧ response.isSuccess = false ∧
      revisions db id (s.handle files r).2 = revisions db id s ∧
      (s.handle files r).2.ReadyFor db id n := by
  obtain ⟨bytes, hbytes⟩ := hbody
  obtain ⟨out, htries, hhandle⟩ := tries_handle hid h.pending hr hbytes
  cases htries with
  | accept hnames advances => exact absurd (h.names_iff.1 hnames) hbase
  | refuse _ refusal =>
    refine ⟨refusal.response, congrArg Prod.fst hhandle, by cases refusal <;> rfl, ?_⟩
    rw [hhandle]
    exact ⟨rfl, h.pending, h.database, h.wellKept, h.bound⟩

lemma ReadyFor.unsent (h : s.ReadyFor db id n) (hr : r.Writes db id) {e : TransportError}
    (herror : bodyBytes files r.body = .error e) :
    (s.handle files r).1 = .error e ∧
      revisions db id (s.handle files r).2 = revisions db id s ∧
      (s.handle files r).2.ReadyFor db id n := by
  rw [handle_unsent h.pending hr herror]
  exact ⟨rfl, rfl, h.log r⟩

end Answers

/-- The server in memory checks revisions. -/
def checks (files : Files) (db : String) {id : String} (hid : id ≠ "_security") :
    service.Checks files db id where
  history := revisions db id
  Ready := ReadyFor db id
  weaken h := h.weaken
  accept h := h.accepts hid
  refuse h := h.refuses hid
  unsent h hr herror := h.unsent hr herror
  reconnect h := ⟨rfl, h.pending, h.database, h.wellKept, h.bound⟩

lemma history_checks (files : Files) (db : String) {id : String} (hid : id ≠ "_security") :
    (checks files db hid).history = revisions db id := rfl

end Server

end CouchLoad
