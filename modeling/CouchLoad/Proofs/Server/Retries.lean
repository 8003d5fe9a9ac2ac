import CouchLoad.Proofs.Program.Lines
import CouchLoad.Proofs.Server.Footprint
import CouchLoad.Proofs.Server.Frame

/-!
# Requests that come twice

A request that has been handled is spent: it changes no database when it comes again. A write has
superseded the revision that it names, whether it was the write itself or somebody before it; a
replicated revision is known; a database that is created is there, and one that is deleted is gone.
So it does no harm to send a request again whose answer got lost.
-/

namespace CouchLoad

/-- The ids of the documents that a bulk write gives new revisions. -/
def Request.bulkIds (r : Request) : List (Option String) :=
  match Server.Command.of? r with
  | some (.writeBulk _) =>
    let body := Server.jsonBody r
    if (body.field "new_edits").bool?.getD true then
      ((body.field "docs").array?.getD []).map fun entry => (entry.field "_id").string?
    else []
  | _ => []

/-- A request that says of every document that it gives a new revision which one it is, and no
document twice. -/
structure Request.Definite (r : Request) : Prop where
  named : none ∉ r.bulkIds
  nodup : r.bulkIds.Nodup

namespace StoredDocument

/-- A revision is known if it is current or among the conflicts. -/
lemma addConflict_eq_self_iff {d : StoredDocument} {rev : Revision} :
    d.addConflict rev = d ↔ d.rev = rev ∨ rev ∈ d.conflicts := by
  unfold addConflict
  split
  · rename_i hnew
    rw [Bool.and_eq_true, decide_eq_true_eq, Bool.not_eq_true', List.contains_eq_mem,
      decide_eq_false_iff_not] at hnew
    constructor
    · intro heq
      have hconflicts := congrArg StoredDocument.conflicts heq
      simp at hconflicts
    · rintro (hrev | hmem)
      · exact absurd hrev hnew.1
      · exact absurd hmem hnew.2
  · rename_i hold
    have hknown : ¬(d.rev ≠ rev ∧ rev ∉ d.conflicts) := by simpa using hold
    exact ⟨fun _ => by tauto, fun _ => rfl⟩

/-- What is known stays known. -/
lemma addConflict_known {d : StoredDocument} {rev : Revision} (h : d.addConflict rev = d)
    (rev' : Revision) : (d.addConflict rev').addConflict rev = d.addConflict rev' := by
  rw [addConflict_eq_self_iff] at h ⊢
  rw [rev_addConflict]
  refine h.imp_right fun hmem => ?_
  unfold addConflict
  split
  · exact List.mem_append_left _ hmem
  · exact hmem

lemma addConflict_self (d : StoredDocument) (rev : Revision) :
    (d.addConflict rev).addConflict rev = d.addConflict rev := by
  by_cases h : d.addConflict rev = d
  · rw [h, h]
  · rw [addConflict_eq_self_iff, not_or] at h
    rw [addConflict_eq_self_iff, conflicts_addConflict h.1 h.2]
    exact .inr (by simp)

end StoredDocument

namespace Server

/-! ### Single writes -/

lemma Names.of_databases {s t : Server} {db id : String} {rev : Option String}
    (h : s.Names db id rev) (hdatabases : t.databases = s.databases) : t.Names db id rev :=
  h.congr (by rw [hdatabases]) (by rw [document?, hdatabases, document?])

/-- A write that is not as it should be changes no database. -/
lemma Tries.databases_eq {s : Server} {db id : String} {proper : Prop}
    {out : Except Refusal Revision × Server} (h : s.Tries db id proper out) (hnot : ¬proper) :
    out.2.databases = s.databases := by
  cases h with
  | accept hproper advances => exact absurd hproper hnot
  | refuse _ refusal => rfl

/-- After a write, what it names is not current, if it was as it should be just if it named what was
current. -/
lemma Tries.not_names {s : Server} {db id : String} {rev : Option String} {proper : Prop}
    {out : Except Refusal Revision × Server} (h : s.Tries db id proper out)
    (hproper : proper ↔ s.Names db id rev) : ¬out.2.Names db id rev := by
  cases h with
  | accept hyes advances => exact advances.not_names (hproper.1 hyes)
  | refuse hno refusal => exact fun hnames => hno (hproper.2 (hnames.of_databases rfl))

/-- A write that comes again names what has been superseded. -/
lemma Tries.databases_again {s t : Server} {db id : String} {rev : Option String}
    {proper proper' : Prop} {out out' : Except Refusal Revision × Server}
    (h : s.Tries db id proper out) (h' : t.Tries db id proper' out')
    (hproper : proper ↔ s.Names db id rev) (hproper' : proper' → t.Names db id rev)
    (ht : t.databases = out.2.databases) : out'.2.databases = t.databases :=
  h'.databases_eq fun hagain => h.not_names hproper ((hproper' hagain).of_databases ht.symm)

lemma answerWrite_snd (id : String) (out : Except Refusal Revision × Server) :
    (answerWrite id out).2 = out.2 := by
  obtain ⟨refusal | rev, t⟩ := out <;> rfl

/-! ### Many entries -/

section Entries

variable {step : Server → Json → Server} {Done : Server → Json → Prop}
  {apart : Json → Json → Prop}

/-- What is done stays done while other entries are taken. -/
lemma done_foldl_of_done
    (hkeep : ∀ s entry entry', apart entry entry' → Done s entry → Done (step s entry') entry)
    {s : Server} {entry : Json} {entries : List Json} (hapart : ∀ e ∈ entries, apart entry e)
    (h : Done s entry) : Done (entries.foldl step s) entry := by
  induction entries generalizing s with
  | nil => exact h
  | cons e entries ih =>
    obtain ⟨he, hrest⟩ := List.forall_mem_cons.1 hapart
    exact ih hrest (hkeep s entry e he h)

variable (Done) in
/-- When all entries have been taken, all are done. -/
lemma done_foldl {proper : Json → Prop}
    (hself : ∀ s entry, proper entry → Done (step s entry) entry)
    (hkeep : ∀ s entry entry', apart entry entry' → Done s entry → Done (step s entry') entry)
    {entries : List Json} (hproper : ∀ e ∈ entries, proper e) (hapart : entries.Pairwise apart)
    (s : Server) : ∀ e ∈ entries, Done (entries.foldl step s) e := by
  induction entries generalizing s with
  | nil => simp
  | cons entry entries ih =>
    obtain ⟨hentry, hrest⟩ := List.forall_mem_cons.1 hproper
    rw [List.pairwise_cons] at hapart
    have hfirst : Done (entries.foldl step (step s entry)) entry :=
      done_foldl_of_done hkeep hapart.1 (hself s entry hentry)
    exact List.forall_mem_cons.2 ⟨hfirst, ih hrest hapart.2 _⟩

variable (Done) in
/-- Entries that are done change no database. -/
lemma databases_foldl
    (hcongr : ∀ {s t : Server} {entry}, t.databases = s.databases → Done s entry → Done t entry)
    (hidle : ∀ s entry, Done s entry → (step s entry).databases = s.databases)
    {entries : List Json} {s : Server} (h : ∀ e ∈ entries, Done s e) :
    (entries.foldl step s).databases = s.databases := by
  induction entries generalizing s with
  | nil => rfl
  | cons entry entries ih =>
    obtain ⟨hentry, hrest⟩ := List.forall_mem_cons.1 h
    have hsame := hidle s entry hentry
    exact (ih fun e he => hcongr hsame (hrest e he)).trans hsame

end Entries

lemma writeEntries_eq_foldl (s : Server) (db : String) (entries : List Json) :
    (s.writeEntries db entries).2 = entries.foldl (fun s entry => (s.writeEntry db entry).2) s := by
  induction entries generalizing s with
  | nil => rfl
  | cons entry entries ih => exact ih _

lemma replicateEntries_eq_foldl (s : Server) (db : String) (entries : List Json) :
    (s.replicateEntries db entries).2 =
      entries.foldl (fun s entry => (s.replicateEntry db entry).2) s := by
  induction entries generalizing s with
  | nil => rfl
  | cons entry entries ih => exact ih _

/-- An entry has an id, but it does not name what is current there. -/
def Superseded (db : String) (s : Server) (entry : Json) : Prop :=
  ∃ id, (entry.field "_id").string? = some id ∧ ¬s.Names db id (entry.field "_rev").string?

lemma writeEntry_of_id {s : Server} {db id : String} {entry : Json}
    (h : (entry.field "_id").string? = some id) : (s.writeEntry db entry).2 =
      (s.writeDocument db id (entry.field "_rev").string? entry).2 := by
  simp only [writeEntry, entryId, h]
  split <;> simp_all

lemma superseded_writeEntry_self {db : String} {s : Server} {entry : Json}
    (h : (entry.field "_id").string?.isSome) :
    Superseded db (s.writeEntry db entry).2 entry := by
  obtain ⟨id, hid⟩ := Option.isSome_iff_exists.1 h
  refine ⟨id, hid, ?_⟩
  rw [writeEntry_of_id hid]
  exact (tries_writeDocument ..).not_names Iff.rfl

lemma superseded_writeEntry {db : String} {s : Server} {entry entry' : Json}
    (hapart : ∃ id', (entry'.field "_id").string? = some id' ∧
      (entry.field "_id").string? ≠ some id')
    (h : Superseded db s entry) : Superseded db (s.writeEntry db entry').2 entry := by
  obtain ⟨id, hid, hnames⟩ := h
  obtain ⟨id', hid', hne⟩ := hapart
  have hother : id ∉ [id'] := fun hmem => hne (by rw [hid, List.mem_singleton.1 hmem])
  have hwithin := (tries_writeDocument s db id' (entry'.field "_rev").string? entry').within
  refine ⟨id, hid, fun h => hnames ?_⟩
  rw [writeEntry_of_id hid'] at h
  exact h.congr hwithin.contains.symm (hwithin.inside id hother).symm

lemma databases_writeEntry {db : String} {s : Server} {entry : Json}
    (h : Superseded db s entry) : (s.writeEntry db entry).2.databases = s.databases := by
  obtain ⟨id, hid, hnames⟩ := h
  rw [writeEntry_of_id hid]
  exact (tries_writeDocument ..).databases_eq hnames

lemma Superseded.of_databases {db : String} {s t : Server} {entry : Json}
    (hdatabases : t.databases = s.databases) (h : Superseded db s entry) :
    Superseded db t entry := by
  obtain ⟨id, hid, hnames⟩ := h
  exact ⟨id, hid, fun h => hnames (h.of_databases hdatabases.symm)⟩

/-- Entries with ids of their own, written twice. -/
lemma databases_writeEntries_again {s t : Server} {db : String} {entries : List Json}
    (hnamed : none ∉ entries.map fun entry => (entry.field "_id").string?)
    (hnodup : (entries.map fun entry => (entry.field "_id").string?).Nodup)
    (ht : t.databases = (s.writeEntries db entries).2.databases) :
    (t.writeEntries db entries).2.databases = t.databases := by
  have hids : ∀ e ∈ entries, (e.field "_id").string?.isSome := by
    intro e he
    by_contra hnone
    rw [Option.not_isSome_iff_eq_none] at hnone
    exact hnamed (hnone ▸ List.mem_map_of_mem he)
  have hapart : entries.Pairwise fun entry entry' => ∃ id',
      (entry'.field "_id").string? = some id' ∧ (entry.field "_id").string? ≠ some id' := by
    refine (List.pairwise_map.1 hnodup).imp_of_mem fun _ hmem hne => ?_
    obtain ⟨id', hid'⟩ := Option.isSome_iff_exists.1 (hids _ hmem)
    exact ⟨id', hid', hid' ▸ hne⟩
  have hdone := done_foldl (Superseded db) (fun _ _ => superseded_writeEntry_self)
    (fun _ _ _ => superseded_writeEntry) hids hapart s
  rw [writeEntries_eq_foldl] at ht ⊢
  exact databases_foldl (Superseded db) Superseded.of_databases
    (fun _ _ => databases_writeEntry) fun e he => (hdone e he).of_databases ht

/-! ### Replicated revisions -/

/-- The revision of an entry is known, if it can be read and the database is there. -/
def Known (db : String) (s : Server) (entry : Json) : Prop :=
  ∀ rev, (entry.field "_rev").string?.bind Revision.parse? = some rev →
    s.databases.contains db = true →
      ∃ d, s.document? db ((entry.field "_id").string?.getD "") = some d ∧ d.addConflict rev = d

lemma Known.of_databases {db : String} {s t : Server} {entry : Json}
    (hdatabases : t.databases = s.databases) (h : Known db s entry) : Known db t entry := by
  intro rev hrev hdb
  rw [hdatabases] at hdb
  rw [document?, hdatabases]
  exact h rev hrev hdb

/-- Storing a revision stores nothing, or it puts the document with that revision in its place. -/
lemma replicateEntry_cases (s : Server) (db : String) (entry : Json) :
    (s.replicateEntry db entry).2 = s ∧
        ((entry.field "_rev").string?.bind Revision.parse? = none ∨
          s.databases.get? db = none) ∨
      ∃ rev database, (entry.field "_rev").string?.bind Revision.parse? = some rev ∧
        s.databases.get? db = some database ∧
        (s.replicateEntry db entry).2 = s.putDocument db database
          ((entry.field "_id").string?.getD "")
          (replicated (s.document? db ((entry.field "_id").string?.getD "")) rev
            (StoredDocument.fieldsOf entry)) := by
  unfold replicateEntry
  simp only
  cases hrev : (entry.field "_rev").string?.bind Revision.parse? with
  | none => exact .inl ⟨rfl, .inl rfl⟩
  | some rev =>
    cases hdb : s.databases.get? db with
    | none => exact .inl ⟨rfl, .inr rfl⟩
    | some database =>
      rw [document?_of_get? hdb]
      exact .inr ⟨rev, database, rfl, rfl, rfl⟩

lemma known_replicateEntry_self (db : String) (s : Server) (entry : Json) :
    Known db (s.replicateEntry db entry).2 entry := by
  intro rev hrev hdb
  rcases replicateEntry_cases s db entry with ⟨heq, hnone⟩ | ⟨rev', database, hrev', hget, heq⟩
  · rw [heq] at hdb
    obtain ⟨database, hget⟩ := exists_get?_of_contains hdb
    rcases hnone with hnone | hnone
    · rw [hrev] at hnone
      cases hnone
    · rw [hget] at hnone
      cases hnone
  · rw [hrev, Option.some.injEq] at hrev'
    subst hrev'
    rw [heq]
    refine ⟨_, (puts_putDocument hget _ _).here, ?_⟩
    cases s.document? db ((entry.field "_id").string?.getD "") with
    | none => exact StoredDocument.addConflict_eq_self_iff.2 (.inl rfl)
    | some d => exact d.addConflict_self rev

lemma known_replicateEntry {db : String} {s : Server} {entry : Json} (h : Known db s entry)
    (entry' : Json) : Known db (s.replicateEntry db entry').2 entry := by
  rcases replicateEntry_cases s db entry' with ⟨heq, -⟩ | ⟨rev', database, -, hget, heq⟩
  · rwa [heq]
  · intro rev hrev hdb
    rw [heq]
    obtain ⟨d, hd, hknown⟩ := h rev hrev (contains_of_get? hget)
    have hputs := puts_putDocument hget ((entry'.field "_id").string?.getD "")
      (replicated (s.document? db ((entry'.field "_id").string?.getD "")) rev'
        (StoredDocument.fieldsOf entry'))
    by_cases hid : (entry.field "_id").string?.getD "" = (entry'.field "_id").string?.getD ""
    · rw [← hid, hd] at hputs
      rw [← hid, hd]
      exact ⟨_, hputs.here, StoredDocument.addConflict_known hknown rev'⟩
    · exact ⟨d, (hputs.elsewhere (.inr hid)).trans hd, hknown⟩

lemma databases_replicateEntry {db : String} {s : Server} {entry : Json} (h : Known db s entry) :
    (s.replicateEntry db entry).2.databases = s.databases := by
  rcases replicateEntry_cases s db entry with ⟨heq, -⟩ | ⟨rev, database, hrev, hget, heq⟩
  · rw [heq]
  · obtain ⟨d, hd, hknown⟩ := h rev hrev (contains_of_get? hget)
    rw [heq, hd, replicated, hknown]
    rw [document?_of_get? hget] at hd
    simp only [putDocument, putDatabase]
    rw [Table.insert_get? hd, Table.insert_get? hget]

/-- Revisions that are stored twice. -/
lemma databases_replicateEntries_again {s t : Server} {db : String} {entries : List Json}
    (ht : t.databases = (s.replicateEntries db entries).2.databases) :
    (t.replicateEntries db entries).2.databases = t.databases := by
  have hall : ∀ e ∈ entries, True := fun _ _ => trivial
  have hdone := done_foldl (Known db) (fun s entry _ => known_replicateEntry_self db s entry)
    (fun _ _ entry' (_ : True) h => known_replicateEntry h entry') hall
    (List.pairwise_of_forall fun _ _ => trivial) s
  rw [replicateEntries_eq_foldl] at ht ⊢
  exact databases_foldl (Known db) Known.of_databases
    (fun _ _ => databases_replicateEntry) fun e he => (hdone e he).of_databases ht

/-! ### Commands -/

lemma databases_writeBulk_again {s t : Server} {db : String} {body : Json}
    (hnamed : (body.field "new_edits").bool?.getD true = true →
      none ∉ ((body.field "docs").array?.getD []).map fun entry => (entry.field "_id").string?)
    (hnodup : (body.field "new_edits").bool?.getD true = true →
      (((body.field "docs").array?.getD []).map fun entry => (entry.field "_id").string?).Nodup)
    (ht : t.databases = (s.writeBulk db body).2.databases) :
    (t.writeBulk db body).2.databases = t.databases := by
  unfold writeBulk at ht ⊢
  by_cases hdb : s.databases.contains db = true
  · rw [if_neg (by simp [hdb])] at ht
    cases hdocs : (body.field "docs").array? with
    | none => split <;> rfl
    | some entries =>
      rw [hdocs] at ht hnamed hnodup
      split
      · rfl
      · simp only at ht ⊢
        split
        · rename_i hedits
          rw [if_pos hedits] at ht
          exact databases_writeEntries_again (hnamed hedits) (hnodup hedits) ht
        · rename_i hedits
          rw [if_neg hedits] at ht
          exact databases_replicateEntries_again ht
  · rw [if_pos (by simp [hdb])] at ht
    rw [if_pos (by rw [ht]; simp [hdb])]

/-- A command that has been carried out changes nothing when it comes again. -/
lemma databases_execute_again {s t : Server} {files : Files} {r : Request} {command : Command}
    (hcommand : Command.of? r = some command) (hr : r.Definite)
    (ht : t.databases = (s.execute files r command).2.databases) :
    (t.execute files r command).2.databases = t.databases := by
  cases command with
  | createDatabase db =>
    have hthere : t.databases.contains db = true := by
      rw [ht]
      simp only [execute]
      split
      · assumption
      · exact contains_of_get? (Table.get?_insert_self ..)
    simp only [execute, hthere, if_true]
  | deleteDatabase db =>
    have hgone : t.databases.contains db = false := by
      rw [ht]
      simp only [execute]
      split
      · simp [Table.contains, Table.get?_erase]
      · simp_all
    simp only [execute, hgone]
    rfl
  | putSecurity db =>
    simp only [execute] at ht ⊢
    cases hdb : s.databases.get? db with
    | none =>
      rw [hdb] at ht
      have hnone : t.databases.get? db = none := by rw [ht, hdb]
      rw [hnone]
    | some database =>
      rw [hdb] at ht
      have hsome : t.databases.get? db =
          some { database with security := some (jsonBody r) } := by
        rw [ht]
        exact Table.get?_insert_self ..
      rw [hsome]
      exact Table.insert_get? hsome
  | writeBulk db =>
    have hids : ((jsonBody r).field "new_edits").bool?.getD true = true → r.bulkIds =
        (((jsonBody r).field "docs").array?.getD []).map fun entry =>
          (entry.field "_id").string? := by
      intro hedits
      simp only [Request.bulkIds, hcommand]
      rw [if_pos hedits]
    have hout : ∀ u : Server, (u.execute files r (.writeBulk db)).2 =
        (u.writeBulk db (jsonBody r)).2 := by
      intro u
      simp only [execute]
      split <;> simp_all
    rw [hout] at ht ⊢
    exact databases_writeBulk_again (fun hedits => hids hedits ▸ hr.named)
      (fun hedits => hids hedits ▸ hr.nodup) ht
  | writeDocument db id =>
    simp only [execute, answerWrite_snd] at ht ⊢
    exact (tries_writeDocument ..).databases_again (tries_writeDocument ..) Iff.rfl
      (fun hagain => hagain) ht
  | writeAttachment db id name =>
    simp only [execute] at ht ⊢
    cases hbytes : bodyBytes files r.body with
    | error e => rfl
    | ok bytes =>
      simp only [hbytes, answerWrite_snd] at ht ⊢
      cases hrev : r.queryParam? "rev" with
      | none =>
        -- there is no attachment without a revision
        exact (tries_writeAttachment ..).databases_eq (by simp)
      | some rev =>
        rw [hrev] at ht
        exact (tries_writeAttachment ..).databases_again (tries_writeAttachment ..)
          (and_iff_right rfl) And.right ht

/-- A request that has been responded to changes nothing when it comes again. -/
lemma databases_respond_again {s t : Server} {files : Files} {r : Request} (hr : r.Definite)
    (ht : t.databases = (s.respond files r).2.databases) :
    (t.respond files r).2.databases = t.databases := by
  unfold respond at ht ⊢
  cases hcommand : Command.of? r with
  | none => rfl
  | some command =>
    rw [hcommand] at ht
    exact databases_execute_again hcommand hr ht

/-- Whatever has happened to the log, the connections and the hashes in between, a request that
comes again changes no database. -/
lemma databases_handle_again {s t : Server} {files : Files} {r : Request} (hr : r.Definite)
    (hs : s.pendingFailures = 0) (ht : t.pendingFailures = 0)
    (heq : t.databases = (s.handle files r).2.databases) :
    (t.handle files r).2.databases = (s.handle files r).2.databases := by
  rw [← heq, handle_of_calm ht]
  rw [handle_of_calm hs] at heq
  exact databases_respond_again (t := { t with requests := t.requests.push r }) hr heq

/-! ### Answers that get lost -/

/-- While nothing is dropped, a request that is handled twice leaves the same databases as one that
is handled once. So a client may send a request again whose answer got lost: whichever answers get
lost on the way, the databases are those after one request, with the same histories and conflicts
of all documents. -/
theorem handle_twice (s : Server) (files : Files) (r : Request) (hpending : s.pendingFailures = 0)
    (hr : r.Definite) :
    ((s.handle files r).2.handle files r).2.databases = (s.handle files r).2.databases ∧
      ∀ (lost : Nat → Option TransportError) {σ : Type} (link : Link σ) (w : World (Line Server)),
        w.server.service = s → w.files = files →
          (((Server.service.lossy lost).session link (Session.send r)).run
            w).2.server.service.databases = (s.handle files r).2.databases := by
  have hcalm : (s.handle files r).2.pendingFailures = 0 := by rw [pendingFailures_handle, hpending]
  refine ⟨databases_handle_again hr hpending hcalm rfl, ?_⟩
  intro lost σ link w hservice hfiles
  have hleads : (Session.send r).Leads (service.lossy lost) files
      (fun _ line _ => line.service.databases = (s.handle files r).2.databases) w.server link := by
    apply Session.leads_send
    · intro answer _ _
      rw [service.service_send, hservice]
      rfl
    · intro e _ _ again
      rw [service.service_send]
      apply databases_handle_again hr hpending
      · rw [Service.relink, service.service_send, hservice]
        exact hcalm
      · rw [Service.relink, service.service_send, hservice]
        rfl
  exact (hleads w rfl hfiles).2

/-- The first answer gets lost, the request comes again, and the second answer gets lost as well:
the two entries, of which the second one is refused, have been written once. -/
theorem handle_twice_lost :
    let entries : List Json := [.object [("_id", .string "a")],
      .object [("_id", .string "b"), ("_rev", .string "1-x")]]
    let r := (Operation.bulkDocuments "db" entries true).request
    let s : Server := ({} : Server).addDatabase "db"
    let files : Files := fun _ => .error .notFound
    let lost : Nat → Option TransportError := fun _ => some (.disconnected "answer lost")
    let w : World (Line Server) := { server := ⟨s, 0⟩, files, sources n := .ofSeed n.toUInt64 }
    let out := ((Server.service.lossy lost).session ({ owner := () } : Link Unit)
      (Session.send r)).run w
    s.pendingFailures = 0 ∧ r.Definite ∧ out.2.server.service.requests.size = 2 ∧
      (out.2.server.service.document? "db" "a").map (·.history.length) = some 1 ∧
      out.2.server.service.databases = (s.handle files r).2.databases := by
  intro entries r s files lost w out
  have hdefinite : r.Definite := ⟨by decide, by decide⟩
  exact ⟨rfl, hdefinite, by decide +kernel, by decide +kernel,
    (handle_twice s files r rfl hdefinite).2 lost _ w rfl rfl⟩

end Server

end CouchLoad
