import CouchLoad.Proofs.Load.Solo

/-!
# Documents without ids

A document whose template gives it no id gets an identifier that is drawn for it when it is
rendered. A worker that writes documents one by one renders each of them once, so all its revisions
belong to one document. A worker that writes batches renders the documents anew in every pass, with
new identifiers: there each pass leaves documents of its own.
-/

namespace CouchLoad

open Session

/-! ### Identifiers in the place of ids -/

/-- The template never gives the document of a counter an id. -/
def Config.Nameless (c : Config) (counter : Nat) : Prop :=
  ∀ s (members : Table Json), (c.template.value (c.context counter) s).1 = .ok (.object members) →
    members.get? "_id" = none ∨ members.get? "_id" = some .null

lemma Attachment.get?_id_of_split {mode : AttachmentMode} {files : Files}
    {members rest : Table Json} {attachments : List Attachment}
    (h : Attachment.split mode files members = .ok (rest, attachments)) :
    rest.get? "_id" = members.get? "_id" := by
  obtain ⟨rfl, -⟩ := Attachment.split_eq_ok_iff.1 h
  rw [Table.get?_erase, if_neg (by decide)]

/-- A document without an id gets the identifier that was drawn for it. -/
lemma Document.id_of_nameless {mode : AttachmentMode} {files : Files} {fresh : Entropy.Uuid}
    {members : Table Json} {d : Document}
    (hmembers : members.get? "_id" = none ∨ members.get? "_id" = some .null)
    (h : ofJson mode files fresh (.object members) = .ok d) : d.id = fresh.hyphenated := by
  obtain ⟨_, rest, heq, hsplit, hid, -⟩ := ofJson_eq_ok_iff.1 h
  cases heq
  rw [← Attachment.get?_id_of_split hsplit] at hmembers
  rcases hmembers with hnone | hnull
  · rw [hnone] at hid
    exact (Except.ok.inj hid).symm
  · rw [hnull] at hid
    exact (Except.ok.inj hid).symm

namespace Config

variable {c : Config} {counter : Nat} {d : Document}

lemma Nameless.exists_fresh (h : c.Nameless counter) (hd : c.Renders counter d) :
    ∃ u : Entropy.Uuid, d.id = u.hyphenated := by
  obtain ⟨files, fresh, s, hrender⟩ := hd
  refine ⟨fresh, ?_⟩
  have hbind : (c.template.value (c.context counter) s).1.bind
      (Document.ofJson c.attachmentMode files fresh) = .ok d := hrender
  cases hvalue : (c.template.value (c.context counter) s).1 with
  | error e =>
    rw [hvalue] at hbind
    cases hbind
  | ok v =>
    rw [hvalue] at hbind
    cases v with
    | object members => exact Document.id_of_nameless (h s members hvalue) hbind
    | _ => cases hbind

end Config

/-! ### Shares that are filled -/

namespace Share

/-- How many revisions a document of the share has; zero if there is none. -/
def depth (g : Share) (id : String) : Nat :=
  ((g.documents id).map (·.history.length)).getD 0

lemma depth_write_self {g : Share} {id : String} {d : StoredDocument}
    (h : d.Succeeds (g.documents id)) : (g.write id d).depth id = g.depth id + 1 := by
  rw [depth, documents_write_self, Option.map_some, Option.getD_some, h.history, depth]
  cases g.documents id <;> simp

lemma depth_congr {g g' : Share} {id : String} (h : g'.documents id = g.documents id) :
    g'.depth id = g.depth id := by
  rw [depth, h, depth]

lemma isSome_of_depth {g : Share} {id : String} (h : g.depth id ≠ 0) :
    (g.documents id).isSome := by
  unfold depth at h
  cases hdoc : g.documents id with
  | none => simp [hdoc] at h
  | some d => rfl

/-- A share whose documents have a number of revisions each, to which uploads have added some.
Every counter has come to a document or to a failure. -/
structure Filled (g : Share) (each settled : Nat) (ids : List String) (stats : Stats) : Prop where
  nodup : ids.Nodup
  held : ∀ id, (g.documents id).isSome ↔ id ∈ ids
  deep : ∀ id ∈ ids, each ≤ g.depth id
  writes : g.writes = each * ids.length + stats.attachmentWrites
  settled : ids.length + stats.documentFailures = settled

namespace Filled

variable {g : Share} {each settled : Nat} {ids : List String} {stats : Stats}

lemma empty (each : Nat) : Filled {} each 0 [] {} where
  nodup := List.nodup_nil
  held id := by simp
  deep _ h := absurd h List.not_mem_nil
  writes := by simp
  settled := rfl

/-- No other numbers count than those of documents that failed and of attachments. -/
lemma recount (h : g.Filled each settled ids stats) {stats' : Stats}
    (hfailures : stats'.documentFailures = stats.documentFailures)
    (huploads : stats'.attachmentWrites = stats.attachmentWrites) :
    g.Filled each settled ids stats' where
  nodup := h.nodup
  held := h.held
  deep := h.deep
  writes := by rw [h.writes, huploads]
  settled := by rw [hfailures, h.settled]

/-- One more document fails. -/
lemma fail (h : g.Filled each settled ids stats) :
    g.Filled each (settled + 1) ids
      { stats with documentFailures := stats.documentFailures + 1 } where
  nodup := h.nodup
  held := h.held
  deep := h.deep
  writes := h.writes
  settled := by rw [← h.settled, Nat.add_assoc]

/-- One more attachment is uploaded. -/
lemma upload (h : g.Filled each settled ids stats) {id : String} (hid : id ∈ ids)
    {d : StoredDocument} (hd : d.Succeeds (g.documents id)) :
    (g.write id d).Filled each settled ids
      { stats with attachmentWrites := stats.attachmentWrites + 1 } where
  nodup := h.nodup
  held other := by
    by_cases heq : other = id
    · simp [heq, hid]
    · rw [documents_write_of_ne g heq]
      exact h.held other
  deep other hother := by
    by_cases heq : other = id
    · rw [heq, depth_write_self hd]
      exact Nat.le_succ_of_le (h.deep id hid)
    · rw [depth_congr (documents_write_of_ne g heq d)]
      exact h.deep other hother
  writes := by
    rw [writes_write, h.writes]
    exact Nat.add_assoc ..
  settled := h.settled

end Filled

/-- Every document of a batch that is accepted is a revision more. -/
lemma Written.writes_eq {contested : String → Prop} {g g' : Share} {batch : List Document}
    {revs : List (Option Revision)} (h : g.Written contested batch revs g') :
    g'.writes = g.writes + revs.countP Option.isSome := by
  induction h with
  | nil g => rfl
  | accept stored current succeeds body rest ih =>
    rw [ih, writes_write, List.countP_cons_of_pos rfl]
    omega
  | refuse reason rest ih => rw [ih, List.countP_cons_of_neg (by simp)]

/-- A batch of new documents fills the share with their first revisions. -/
lemma Filled.gather {contested : String → Prop} {g g' : Share} {settled : Nat} {ids : List String}
    {stats : Stats} {batch : List Document} {revs : List (Option Revision)}
    (h : g.Filled 1 settled ids stats) (hwritten : g.Written contested batch revs g')
    (hown : ∀ id, ¬contested id) (hnodup : (ids ++ batch.map (·.id)).Nodup)
    (hrev : ∀ d ∈ batch, (g.current d.id).map Revision.display = d.rev) :
    g'.Filled 1 (settled + batch.length) (ids ++ batch.map (·.id)) stats ∧
      revs.length = batch.length ∧ ∀ rev ∈ revs, rev.isSome := by
  obtain ⟨-, hbatch, hdisjoint⟩ := List.nodup_append.1 hnodup
  obtain ⟨hlength, hall, hdocuments⟩ :=
    hwritten.all_accepted hrev (fun d _ => hown d.id) hbatch
  have hstored : ∀ id ∈ batch.map (·.id), (g'.documents id).isSome ∧ g'.depth id = 1 := by
    intro id hid
    obtain ⟨d, hd, rfl⟩ := List.mem_map.1 hid
    obtain ⟨stored, hstored, hsucceeds, -⟩ := hdocuments d hd
    have hnew : g.documents d.id = none := by
      rw [← Option.not_isSome_iff_eq_none, h.held d.id]
      exact fun hmem => hdisjoint _ hmem _ hid rfl
    rw [hnew] at hsucceeds
    simp [depth, hstored, hsucceeds.history]
  have hothers : ∀ id, id ∉ batch.map (·.id) → g'.documents id = g.documents id :=
    fun id hid => hwritten.documents_of_notMem hid
  refine ⟨⟨hnodup, fun id => ?_, fun id hid => ?_, ?_, ?_⟩, hlength, hall⟩
  · rw [List.mem_append]
    by_cases hid : id ∈ batch.map (·.id)
    · simp [(hstored id hid).1, hid]
    · rw [hothers id hid, h.held id]
      simp [hid]
  · by_cases hmem : id ∈ batch.map (·.id)
    · exact Nat.le_of_eq (hstored id hmem).2.symm
    · rw [depth_congr (hothers id hmem)]
      exact h.deep id ((List.mem_append.1 hid).resolve_right hmem)
  · rw [hwritten.writes_eq, List.countP_eq_length.2 hall, hlength, h.writes, List.length_append,
      List.length_map]
    omega
  · rw [List.length_append, List.length_map, ← h.settled]
    omega

/-- Two shares whose documents have the same revisions. -/
structure Alike (g g' : Share) : Prop where
  current : g'.current = g.current
  depth : g'.depth = g.depth
  writes : g'.writes = g.writes

lemma Alike.refl (g : Share) : g.Alike g := ⟨rfl, rfl, rfl⟩

lemma Alike.trans {g g' g'' : Share} (h : g.Alike g') (h' : g'.Alike g'') : g.Alike g'' :=
  ⟨h'.current.trans h.current, h'.depth.trans h.depth, h'.writes.trans h.writes⟩

/-- Conflicts change no revision. -/
lemma Conflicted.alike {distinct : Prop} {g g' : Share} {entries : List (Document × Revision)}
    (h : g.Conflicted distinct entries g') : g.Alike g' := by
  refine ⟨Conflict.current_of_conflicted h, ?_, h.counts.1⟩
  induction h with
  | nil g => rfl
  | @cons g g' d rev rest stored held added sibling others ih =>
    rw [ih]
    funext id
    by_cases hid : id = d.id
    · simp [depth, hid, held]
    · exact depth_congr (documents_conflict_of_ne g hid rev)

lemma Alike.filled {g g' : Share} (halike : g.Alike g') {each settled : Nat} {ids : List String}
    {stats : Stats} (h : g.Filled each settled ids stats) : g'.Filled each settled ids stats where
  nodup := h.nodup
  held id := by
    have hcurrent := congrArg Option.isSome (congrFun halike.current id)
    simp only [Share.current, Option.isSome_map] at hcurrent
    rw [hcurrent]
    exact h.held id
  deep id hid := by
    rw [halike.depth]
    exact h.deep id hid
  writes := halike.writes.trans h.writes
  settled := h.settled

end Share

/-! ### A worker alone -/

/-- What a worker alone has come to: its share is filled with the documents that it has named, and
no document has failed unless it cannot be rendered. -/
structure Worker.Filling (w : Worker) (start : Server) (each settled : Nat) (g : Share)
    (stats : Stats) (s : Server) : Prop where
  solo : start.Solo w.db g s
  filled : g.Filled each settled (start.named s) stats
  failed : stats.documentFailures ≠ 0 →
    ∃ counter ∈ w.partition.counters, w.config.FailsToRender counter

namespace Worker

variable {w : Worker} {start s : Server} {g : Share} {link : Link Progress} {d : Document}
  {each settled : Nat}

/-- What a worker does alone is a logic, as long as it repeats nothing. -/
lemma alone_logic (start : Server) :
    Logic (Serves start.Unrepeated (σ := Progress)) fun _ _ => True :=
  serves_logic (Server.lasting_unrepeated start)

/-! ### Documents one by one -/

/-- A new document that has got some of its revisions. -/
structure Underway (w : Worker) (start : Server) (d : Document) (before : Share) (ids : List String)
    (stats : Stats) (passes : List Nat) (current : Option Revision) (g : Share)
    (link : Link Progress) (s : Server) : Prop where
  solo : start.Solo w.db g s
  named : start.named s = if current.isNone then ids else ids ++ [d.id]
  others : ∀ id, id ≠ d.id → g.documents id = before.documents id
  depth : g.depth d.id + passes.length = w.config.revisions
  writes : g.writes + passes.length = before.writes + w.config.revisions
  current : g.current d.id = current
  failures : link.owner.stats.documentFailures = stats.documentFailures
  uploads : link.owner.stats.attachmentWrites = stats.attachmentWrites

namespace Underway

variable {before : Share} {ids : List String} {stats : Stats} {current : Option Revision}

lemma begin (h : start.Solo w.db g s) (habsent : g.documents d.id = none) (passes : List Nat)
    (hpasses : passes.length = w.config.revisions) :
    Underway w start d g (start.named s) link.owner.stats passes none g link s where
  solo := h
  named := rfl
  others _ _ := rfl
  depth := by simp [Share.depth, habsent, hpasses]
  writes := by rw [hpasses]
  current := by simp [Share.current, habsent]
  failures := rfl
  uploads := rfl

lemma advance {pass : Nat} {passes : List Nat} {s' : Server}
    (h : Underway w start d before ids stats (pass :: passes) current g link s)
    {stored : StoredDocument} (hsucceeds : stored.Succeeds (g.documents d.id))
    (hsolo : start.Solo w.db (g.write d.id stored) s')
    (hnamed : start.named s' = start.named s ++ if current.isNone then [d.id] else [])
    (time : Nat) :
    Underway w start d before ids stats passes (some stored.rev) (g.write d.id stored)
      (link.with (link.owner.writeDocument time)) s' where
  solo := hsolo
  named := by
    rw [hnamed, h.named]
    cases current <;> simp
  others id hid := by rw [Share.documents_write_of_ne g hid, h.others id hid]
  depth := by
    have := h.depth
    rw [List.length_cons] at this
    rw [Share.depth_write_self hsucceeds]
    omega
  writes := by
    have := h.writes
    rw [List.length_cons] at this
    rw [Share.writes_write]
    omega
  current := by simp
  failures := h.failures
  uploads := h.uploads

/-- With all its revisions the document is one more that the share is filled with. -/
lemma finish (h : Underway w start d before ids stats [] current g link s)
    (hrevisions : 1 ≤ w.config.revisions) (hnew : d.id ∉ ids)
    (hbefore : before.Filled w.config.revisions settled ids stats) :
    g.Filled w.config.revisions (settled + 1) (start.named s) link.owner.stats ∧
      start.named s = ids ++ [d.id] := by
  have hdepth : g.depth d.id = w.config.revisions := h.depth
  have hsome : (g.documents d.id).isSome := Share.isSome_of_depth (by omega)
  have hnamed : start.named s = ids ++ [d.id] := by
    rw [h.named, ← h.current]
    cases hdoc : g.documents d.id <;> simp_all [Share.current]
  refine ⟨?_, hnamed⟩
  rw [hnamed]
  refine ⟨?_, fun id => ?_, fun id hid => ?_, ?_, ?_⟩
  · exact List.nodup_append.2 ⟨hbefore.nodup, List.nodup_singleton _, fun id hid id' hid' heq =>
      hnew (by rwa [heq, List.mem_singleton.1 hid'] at hid)⟩
  · rw [List.mem_append, List.mem_singleton]
    by_cases heq : id = d.id
    · simp [heq, hsome]
    · rw [h.others id heq, hbefore.held id]
      simp [heq]
  · by_cases heq : id = d.id
    · rw [heq, hdepth]
    · rw [Share.depth_congr (h.others id heq)]
      refine hbefore.deep id ?_
      rcases List.mem_append.1 hid with hid | hid
      · exact hid
      · exact absurd (List.mem_singleton.1 hid) heq
  · have hwrites : g.writes = before.writes + w.config.revisions := h.writes
    rw [hwrites, hbefore.writes, h.uploads, List.length_append, List.length_singleton, Nat.mul_succ]
    omega
  · rw [h.failures, List.length_append, List.length_singleton, ← hbefore.settled]
    omega

end Underway

/-- Revision after revision is written, each on top of the one before. -/
lemma serves_putRevisions (hcalm : start.pendingFailures = 0) (hd : d.WellFormed)
    (hid : ∃ u : Entropy.Uuid, d.id = u.hyphenated) {before : Share} {ids : List String}
    {stats : Stats} (passes : List Nat) {current : Option Revision}
    (h : Underway w start d before ids stats passes current g link s) :
    (w.putRevisions d current passes).Serves start.Unrepeated (fun current s link =>
      ∃ g, Underway w start d before ids stats [] current g link s) s link := by
  refine (alone_logic start).holds_putRevisions (fun _ _ => trivial) (fun passes current s link =>
    ∃ g, Underway w start d before ids stats passes current g link s) ?_ (fun _ _ _ h => h) passes
    ⟨g, h⟩
  rintro pass passes current s link ⟨g, h⟩
  refine serves_putDocument hcalm hd hid h.current h.solo ?_
  intro stored s' hsucceeds hsolo hnamed _ time
  exact ⟨_, h.advance hsucceeds hsolo hnamed time⟩

/-- Attachments are uploaded to a document that is there, and add revisions to it. -/
lemma serves_uploadAttachments {id : String} (attachments : List Attachment) {rev : Revision}
    (hrev : g.current id = some rev) (hmem : id ∈ start.named s)
    (h : w.Filling start each settled g link.owner.stats s) :
    (w.uploadAttachments id rev attachments).Serves start.Unrepeated (fun _ s link =>
      ∃ g, w.Filling start each settled g link.owner.stats s) s link := by
  refine (alone_logic start).holds_uploadAttachments (fun _ _ => trivial) (fun _ rev s link =>
    ∃ g, g.current id = some rev ∧ id ∈ start.named s ∧
      w.Filling start each settled g link.owner.stats s) ?_ ?_ attachments ⟨g, hrev, hmem, h⟩
  · rintro a rest rev s link ⟨g, hrev, hmem, h⟩
    refine serves_putAttachment hrev h.solo _ _ _ ?_ ?_
    · intro stored s' hsucceeds hsolo hnamed time
      refine ⟨_, Share.current_write_self .., hnamed ▸ hmem, hsolo, ?_, h.failed⟩
      rw [hnamed]
      exact h.filled.upload hmem hsucceeds
    · intro e s' hsolo hnamed time
      refine ⟨g, hrev, hnamed ▸ hmem, hsolo, ?_, h.failed⟩
      rw [hnamed]
      exact h.filled.recount rfl rfl
  · rintro rev s link ⟨g, -, -, h⟩
    exact ⟨g, h⟩

/-- A document is written with all its revisions, because nobody has named its id before. -/
lemma serves_writeDocument (hcalm : start.pendingFailures = 0) (hrevisions : 1 ≤ w.config.revisions)
    (hd : d.WellFormed) (hid : ∃ u : Entropy.Uuid, d.id = u.hyphenated) (link : Link Progress)
    (h : w.Filling start w.config.revisions settled g link.owner.stats s) :
    (w.writeDocument d).Serves start.Unrepeated (fun _ s link =>
      ∃ g, w.Filling start w.config.revisions (settled + 1) g link.owner.stats s) s link := by
  refine (alone_logic start).holds_bind ?_
  by_cases hmem : d.id ∈ start.named s
  · -- the first write would name the id once more
    have hsome : List.range' 1 w.config.revisions ≠ [] := by
      rw [Ne, List.range'_eq_nil_iff]
      omega
    refine (alone_logic start).holds_putRevisions (fun _ _ => trivial) (fun passes current s _ =>
      passes ≠ [] ∧ current = none ∧ d.id ∈ start.named s ∧ start.Solo w.db g s) ?_ ?_ _
      ⟨hsome, rfl, hmem, h.solo⟩
    · rintro pass passes _ s link ⟨-, rfl, hmem, hsolo⟩
      exact serves_putTaken hid hmem hsolo _
    · rintro current s link ⟨hnil, -⟩
      exact absurd rfl hnil
  · have habsent : g.documents d.id = none := by
      rw [← Option.not_isSome_iff_eq_none, h.filled.held d.id]
      exact hmem
    refine (serves_putRevisions hcalm hd hid _
      (.begin h.solo habsent _ List.length_range')).mono ?_
    rintro current s link ⟨g, hunderway⟩
    obtain ⟨hfilled, hnamed⟩ := hunderway.finish hrevisions hmem h.filled
    have hnext : w.Filling start w.config.revisions (settled + 1) g link.owner.stats s :=
      ⟨hunderway.solo, hfilled, by rw [hunderway.failures]; exact h.failed⟩
    cases current with
    | none => exact serves_pure ⟨g, hnext⟩
    | some rev => exact serves_uploadAttachments _ hunderway.current (by simp [hnamed]) hnext

/-- Documents are written one after the other, and each counter comes to a document or to a
failure. -/
lemma serves_writeEach (hcalm : start.pendingFailures = 0) (hrevisions : 1 ≤ w.config.revisions)
    (hnameless : ∀ counter ∈ w.partition.counters, w.config.Nameless counter)
    (h : w.Filling start w.config.revisions 0 g link.owner.stats s) :
    (w.writeEach w.partition.counters).Serves start.Unrepeated (fun _ s link => ∃ g,
      w.Filling start w.config.revisions w.partition.size g link.owner.stats s) s link := by
  refine ((alone_logic start).holds_writeEach (fun _ _ => trivial) (fun left s link =>
    ∃ done g, w.partition.counters = done ++ left ∧
      w.Filling start w.config.revisions done.length g link.owner.stats s) ?_ ?_ _
    ⟨[], g, rfl, h⟩).mono ?_
  · rintro r e left s link ⟨done, g, hsplit, h⟩ - he
    refine ⟨done ++ [r.counter], g, by rw [hsplit]; simp, h.solo, ?_, fun _ => ?_⟩
    · rw [List.length_append, List.length_singleton]
      exact h.filled.fail
    · exact ⟨r.counter, by rw [hsplit]; simp, Rendering.failsToRender he⟩
  · rintro r d left s link ⟨done, g, hsplit, h⟩ - hmade
    have hd := Rendering.renders hmade
    have hid := (hnameless r.counter (by rw [hsplit]; simp)).exists_fresh hd
    refine (serves_writeDocument hcalm hrevisions hd.wellFormed hid
      (link.with { link.owner with source := r.behind w.config }) h).mono ?_
    rintro _ s link ⟨g, h⟩
    exact ⟨done ++ [r.counter], g, by rw [hsplit]; simp, by simpa using h⟩
  · rintro _ s link ⟨done, g, hsplit, h⟩
    have hcount : w.partition.counters.length = w.partition.size := List.length_range'
    rw [hsplit, List.append_nil] at hcount
    rw [← hcount]
    exact ⟨g, h⟩

/-! ### Documents in batches -/

/-- What holds in the middle of a pass, with a batch that waits and counters that are left. -/
structure Gathering (w : Worker) (start : Server) (total : Nat) (batch : List Document)
    (left : List Nat) (settled : Nat) (g : Share) (link : Link Progress) (s : Server) : Prop where
  filling : w.Filling start 1 settled g link.owner.stats s
  tracks : link.owner.Tracks g
  uploads : link.owner.stats.attachmentWrites = 0
  balance : settled + batch.length + left.length = total
  left : ∀ counter ∈ left, counter ∈ w.partition.counters
  waiting : ∀ d ∈ batch, d.WellFormed ∧ (∃ u : Entropy.Uuid, d.id = u.hyphenated) ∧
    d.rev = (g.current d.id).map Revision.display

variable {total : Nat} {batch : List Document} {left : List Nat}

/-- A batch whose ids have not been named before is written as a whole. -/
lemma serves_flush (hcalm : start.pendingFailures = 0) (pass : Nat)
    (h : w.Gathering start total batch left settled g link s) :
    (w.flush pass batch).Serves start.Unrepeated (fun _ s link => ∃ g,
      w.Gathering start total [] left (settled + batch.length) g link s) s link := by
  have hbatch : ∀ d ∈ batch, g.Admits d ∧ ∃ u : Entropy.Uuid, d.id = u.hyphenated := by
    intro d hd
    obtain ⟨hwell, hid, hrev⟩ := h.waiting d hd
    refine ⟨⟨hwell, ?_⟩, hid⟩
    rw [hrev]
    cases hdoc : g.documents d.id <;> simp [Share.current, hdoc]
  refine (alone_logic start).holds_flush trivial
    (serves_bulkDocuments hcalm h.filling.solo hbatch ?_)
  intro results g' s' hsolo hwritten hnamed hin
  refine ⟨trivial, fun time => ⟨trivial, g', ?_⟩⟩
  have hnodup := hin.nodup
  rw [hnamed] at hnodup
  obtain ⟨hfilled, hlength, hall⟩ := h.filling.filled.gather hwritten
    (Server.not_contested_solo start w.db) hnodup fun d hd => (h.waiting d hd).2.2.symm
  have hstats := Progress.stats_recordResults (link.owner.launch.land.sample .document time)
    (by simpa using hlength) fun r hr => hall _ (List.mem_map_of_mem hr)
  have hnext : w.Gathering start total [] left (settled + batch.length) g' (link.with
      ((link.owner.launch.land.sample .document time).recordResults batch results)) s' :=
    { filling := ⟨hsolo, by
        rw [hnamed, Link.with, hstats]
        exact hfilled.recount rfl rfl, by
        rw [Link.with, hstats]
        exact h.filling.failed⟩
      tracks := Progress.tracks_recordResults hwritten h.tracks
      uploads := by
        rw [Link.with, hstats]
        exact h.uploads
      balance := h.balance
      left := h.left
      waiting := by simp }
  exact hnext

/-- Conflicts for known documents are stored beside them. -/
lemma serves_injectPasses (hcalm : start.pendingFailures = 0) {tracker : Tracker}
    (hwell : ∀ d ∈ batch, d.WellFormed)
    (htracker : ∀ id rev, tracker.get? id = some rev → g.current id = some rev)
    (passes : List Nat) (o : Conflict.Outcome) (source : Entropy.Source)
    (hsolo : start.Solo w.db g s) :
    (Conflict.injectPasses w.db batch tracker o source passes).Serves start.Unrepeated
      (fun _ s' link' => link' = link ∧ start.named s' = start.named s ∧
        ∃ g', start.Solo w.db g' s' ∧ g.Alike g') s link := by
  refine (alone_logic start).holds_injectPasses (fun _ _ _ s' link' => link' = link ∧
    start.named s' = start.named s ∧ ∃ g', start.Solo w.db g' s' ∧ g.Alike g')
    (fun _ _ _ _ _ _ h _ => h) ?_ (fun _ _ _ _ h => h) passes ⟨rfl, rfl, g, hsolo, .refl g⟩
  rintro pass passes o source s' _ ⟨rfl, hnamed, g', hsolo', halike⟩
  obtain ⟨entries, source', hforge, hentries, hsiblings⟩ := Conflict.forge_eq tracker batch source
  have hforges : ∀ entry ∈ entries, g'.Forges entry := by
    refine Conflict.forges_of_known hwell (fun id rev hrev => ?_) hentries hsiblings
    rw [halike.current]
    exact htracker id rev hrev
  rw [hforge]
  refine fun _ => ⟨trivial, serves_conflicts hcalm hsolo' hforges ?_⟩
  intro g'' s'' hsolo'' hconflicted hnamed'
  exact ⟨trivial, fun time => ⟨rfl, hnamed'.trans hnamed, g'', hsolo'',
    halike.trans hconflicted.alike⟩⟩

/-- A batch is submitted; conflicts may follow it. -/
lemma serves_submit (hcalm : start.pendingFailures = 0) (pass : Nat)
    (h : w.Gathering start total batch left settled g link s) :
    (w.submit pass batch).Serves start.Unrepeated (fun _ s link => ∃ settled g,
      w.Gathering start total [] left settled g link s) s link := by
  refine (alone_logic start).holds_bind ((serves_flush hcalm pass h).mono ?_)
  rintro _ s link ⟨g, hnext⟩
  split
  · refine (alone_logic start).holds_addConflicts ?_
    refine (serves_injectPasses hcalm (fun d hd => (h.waiting d hd).1)
      (fun id rev hrev => (hnext.tracks id).symm.trans hrev) _ _ _ hnext.filling.solo).mono ?_
    rintro ⟨o, source⟩ s' link' ⟨rfl, hnamed, g', hsolo, halike⟩
    have hfilled := halike.filled hnext.filling.filled
    rw [← hnamed] at hfilled
    refine ⟨_, g', ⟨hsolo, ?_, hnext.filling.failed⟩, fun id => ?_, hnext.uploads,
      hnext.balance, hnext.left, by simp⟩
    · exact hfilled.recount rfl rfl
    · rw [halike.current]
      exact hnext.tracks id
  · exact serves_pure ⟨_, g, hnext⟩

/-- A counter that cannot be rendered is a failure more. -/
lemma Gathering.skip {r : Rendering} {e : Template.Error}
    (h : w.Gathering start total batch (r.counter :: left) settled g link s)
    (he : r.made w.config = .error e) :
    w.Gathering start total batch left (settled + 1) g
      (link.with ({ link.owner with source := r.behind w.config }.failDocuments 1)) s := by
  obtain ⟨hcounter, hleft⟩ := List.forall_mem_cons.1 h.left
  have hbalance := h.balance
  rw [List.length_cons] at hbalance
  exact ⟨⟨h.filling.solo, h.filling.filled.fail,
    fun _ => ⟨r.counter, hcounter, Rendering.failsToRender he⟩⟩, h.tracks, h.uploads, by omega,
    hleft, h.waiting⟩

/-- A document of its own waits for a counter. -/
lemma Gathering.add {r : Rendering}
    (h : w.Gathering start total batch (r.counter :: left) settled g link s)
    (hnameless : ∀ counter ∈ w.partition.counters, w.config.Nameless counter)
    (hd : w.config.Renders r.counter d) :
    w.Gathering start total
      (batch ++ [{ d with rev := (link.owner.tracker.get? d.id).map Revision.display }]) left
      settled g (link.with { link.owner with source := r.behind w.config }) s where
  filling := h.filling
  tracks := h.tracks
  uploads := h.uploads
  balance := by
    have := h.balance
    rw [List.length_cons] at this
    rw [List.length_append, List.length_singleton]
    omega
  left counter hcounter := h.left counter (List.mem_cons_of_mem _ hcounter)
  waiting := by
    refine List.forall_mem_append.2 ⟨h.waiting, List.forall_mem_singleton.2 ?_⟩
    have hid := (hnameless r.counter (h.left _ List.mem_cons_self)).exists_fresh hd
    exact ⟨hd.wellFormed.withRev _, hid, congrArg (Option.map Revision.display) (h.tracks d.id)⟩

/-- In every pass each counter comes to a document of its own or to a failure. -/
lemma serves_writePass (hcalm : start.pendingFailures = 0) (hbulk : w.config.usesBulk = true)
    (hnameless : ∀ counter ∈ w.partition.counters, w.config.Nameless counter) (pass : Nat)
    (h : w.Gathering start total [] left settled g link s) :
    (w.writePass pass [] left).Serves start.Unrepeated (fun _ s link => ∃ g,
      w.Gathering start total [] [] total g link s) s link := by
  have hwaiting : ([] : List Document).length < w.config.bulkBatch := Config.bulkBatch_pos hbulk
  refine ((alone_logic start).holds_writePass (fun batch left s link => ∃ settled g,
    w.Gathering start total batch left settled g link s) (fun _ _ _ _ _ => trivial) ?_ ?_ ?_ left
    hwaiting ⟨settled, g, h⟩).mono ?_
  · rintro r e batch left s link ⟨settled, g, h⟩ - he
    exact ⟨_, g, h.skip he⟩
  · rintro r d batch left s link ⟨settled, g, h⟩ - hmade
    exact ⟨_, g, h.add hnameless (Rendering.renders hmade)⟩
  · rintro batch left s link - - - ⟨settled, g, h⟩
    exact serves_submit hcalm pass h
  · rintro _ s link ⟨settled, g, h⟩
    have hbalance : settled = total := h.balance
    exact ⟨g, hbalance ▸ h⟩

/-- Passes over all counters, one after the other. -/
lemma serves_writePasses (hcalm : start.pendingFailures = 0) (hbulk : w.config.usesBulk = true)
    (hnameless : ∀ counter ∈ w.partition.counters, w.config.Nameless counter) (passes : List Nat)
    (h : w.Filling start 1 0 g link.owner.stats s) (htracks : link.owner.Tracks g)
    (huploads : link.owner.stats.attachmentWrites = 0) :
    (w.writePasses w.partition.counters passes).Serves start.Unrepeated (fun _ s link => ∃ g,
      w.Filling start 1 (passes.length * w.partition.size) g link.owner.stats s ∧
        link.owner.stats.attachmentWrites = 0) s link := by
  refine ((alone_logic start).holds_writePasses (fun left s link => ∃ done g,
    done + left.length = passes.length ∧
      w.Filling start 1 (done * w.partition.size) g link.owner.stats s ∧ link.owner.Tracks g ∧
      link.owner.stats.attachmentWrites = 0) _ ?_ passes ⟨0, g, ?_, ?_, htracks, huploads⟩).mono ?_
  · rintro pass left s link ⟨done, g, hdone, h, htracks, huploads⟩
    have hcount : w.partition.counters.length = w.partition.size := List.length_range'
    have hpass : w.Gathering start ((done + 1) * w.partition.size) [] w.partition.counters
        (done * w.partition.size) g link s :=
      ⟨h, htracks, huploads, by rw [hcount, Nat.succ_mul, List.length_nil, Nat.add_zero],
        fun _ => id, by simp⟩
    refine (serves_writePass hcalm hbulk hnameless pass hpass).mono ?_
    rintro _ s link ⟨g, hend⟩
    refine ⟨done + 1, g, ?_, hend.filling, hend.tracks, hend.uploads⟩
    rw [← hdone, List.length_cons]
    omega
  · exact Nat.zero_add _
  · rwa [Nat.zero_mul]
  · rintro _ s link ⟨done, g, hdone, h, -, huploads⟩
    rw [← hdone, List.length_nil, Nat.add_zero]
    exact ⟨g, h, huploads⟩

/-! ### The whole work -/

/-- The revisions that each document gets. In passes every document is rendered anew, and gets
one. -/
def perDocument (w : Worker) : Nat :=
  if w.config.usesBulk then 1 else w.config.revisions

/-- How many times each counter is rendered. -/
def renderings (w : Worker) : Nat :=
  if w.config.usesBulk then w.config.revisions else 1

/-- A worker alone fills its share with what it renders. -/
lemma serves_work (hcalm : start.pendingFailures = 0) (hrevisions : 1 ≤ w.config.revisions)
    (hnameless : ∀ counter ∈ w.partition.counters, w.config.Nameless counter)
    {security : Option Json}
    (hempty : start.databases.get? w.db = some { documents := [], security })
    (source : Entropy.Source) :
    w.work.Serves start.Unrepeated (fun _ s link => ∃ g,
      w.Filling start w.perDocument (w.renderings * w.partition.size) g link.owner.stats s ∧
        (w.config.usesBulk = true → link.owner.stats.attachmentWrites = 0)) start
      { owner := { source } } := by
  have hnone : start.named start = [] := by
    rw [Server.named, List.drop_of_length_le (by simp), List.flatMap_nil]
  have hstart : ∀ each, w.Filling start each 0 {} {} start := fun each =>
    ⟨.start_empty hempty, hnone ▸ .empty each, by simp⟩
  refine (alone_logic start).holds_work trivial (fun hbulk => ?batches) fun hbulk => ?each
  case batches =>
    refine (serves_writePasses hcalm hbulk hnameless _ (hstart 1) (fun _ => rfl) rfl).mono ?_
    rintro _ s link ⟨g, h, huploads⟩
    rw [List.length_range'] at h
    refine ⟨g, ?_, fun _ => huploads⟩
    rwa [perDocument, renderings, if_pos hbulk, if_pos hbulk]
  case each =>
    refine (serves_writeEach hcalm hrevisions hnameless (hstart w.config.revisions)).mono ?_
    rintro _ s link ⟨g, h⟩
    refine ⟨g, ?_, fun h => by simp [hbulk] at h⟩
    rwa [perDocument, renderings, hbulk, if_neg Bool.false_ne_true, if_neg Bool.false_ne_true,
      Nat.one_mul]

end Worker

/-! ### Databases of one worker -/

/-- All that there is belongs to the only share. -/
lemma Shared.get?_only {territory : Nat → String → Prop} {distinct : Prop}
    {documents : Table StoredDocument} {hashes : Nat} {forged : List String} {G : Nat → Share}
    (h : Shared 1 territory distinct documents hashes forged G) (id : String) :
    documents.get? id = (G 0).documents id := by
  cases hd : documents.get? id with
  | none => exact (h.documents_eq_none 0 hd).symm
  | some d =>
    obtain ⟨place, hplace⟩ := h.holder id d hd
    have hlt := (h.held place id d hplace).1
    rw [Nat.lt_one_iff.1 hlt] at hplace
    exact hplace.symm

/-- The documents of a database with one share that is filled. -/
lemma Share.Filled.database {g : Share} {each settled : Nat} {ids : List String} {stats : Stats}
    (h : g.Filled each settled ids stats) {start : Server} {db : String} {s : Server}
    (hsolo : start.Solo db g s) :
    ∃ database : Database, s.databases.get? db = some database ∧
      database.documents.keys.Perm ids ∧
      (∀ id ∈ database.documents.keys, ∃ u : Entropy.Uuid, id = u.hyphenated) ∧
      (∀ entry ∈ database.documents, each ≤ entry.2.history.length) ∧
      database.documents.total (·.history.length) =
        each * database.documents.length + stats.attachmentWrites := by
  obtain ⟨G, ⟨documents, security, hdatabases, hshared⟩, rfl⟩ := hsolo.state
  have hget := hshared.get?_only
  have hmem : ∀ id, id ∈ documents.keys ↔ id ∈ ids := fun id => by
    rw [← Table.isSome_get?_iff, hget, h.held id]
  have hperm : documents.keys.Perm ids :=
    (List.perm_ext_iff_of_nodup hshared.nodup h.nodup).2 hmem
  refine ⟨⟨documents, security⟩, ?_, hperm, fun id hid => ?_, fun entry hentry => ?_, ?_⟩
  · rw [hdatabases]
    exact Table.get?_insert_self ..
  · obtain ⟨d, hd⟩ := Option.isSome_iff_exists.1 (Table.isSome_get?_iff.2 hid)
    rw [hget] at hd
    exact (hshared.held 0 id d hd).2.1.2
  · have hentry' := Table.get?_of_mem hshared.nodup hentry
    have hdeep := h.deep entry.1 ((hmem _).1 (Table.mem_keys_of_get? hentry'))
    rw [hget] at hentry'
    simpa [Share.depth, hentry'] using hdeep
  · have hlength : documents.length = ids.length := by
      rw [← hperm.length_eq, Table.keys, List.length_map]
    have hwrites : documents.total (·.history.length) =
        ∑ place ∈ Finset.range 1, (G place).writes := hshared.writes
    rw [hwrites, Finset.sum_range_one, h.writes, hlength]

/-- The documents that a worker leaves in an empty database of a server that drops nothing, if the
template never gives an id: every document that it has named is there under the identifier drawn for
it. Every rendering has come to such a document, or it has failed. A worker that writes documents
one by one renders each counter once and gives its document all revisions, and uploads add some
more. A worker that writes batches renders each counter anew in every pass, and what comes of it is
a document of its own with one revision. No identifier is drawn twice, and the server counts its
hashes with 64 bits. -/
theorem nameless_documents {w : Worker} (hrevisions : 1 ≤ w.config.revisions)
    (hnameless : ∀ counter ∈ w.partition.counters, w.config.Nameless counter)
    {W : World Server} (hcalm : W.server.pendingFailures = 0) {security : Option Json}
    (hempty : W.server.databases.get? w.db = some { documents := [], security }) :
    let out := (Server.backend.work w).run W
    W.server.Unrepeated out.2.server →
    ∃ report database, out.1 = .ok report ∧
      out.2.server.databases.get? w.db = some database ∧
      database.documents.keys.Perm (W.server.named out.2.server) ∧
      (∀ id ∈ database.documents.keys, ∃ u : Entropy.Uuid, id = u.hyphenated) ∧
      database.documents.length + report.stats.documentFailures =
        w.renderings * w.partition.size ∧
      (report.stats.documentFailures ≠ 0 →
        ∃ counter ∈ w.partition.counters, w.config.FailsToRender counter) ∧
      (∀ entry ∈ database.documents, w.perDocument ≤ entry.2.history.length) ∧
      database.documents.total (·.history.length) =
        w.perDocument * database.documents.length + report.stats.attachmentWrites ∧
      (w.config.usesBulk = true ∨ report.stats.attachmentWrites = 0 →
        ∀ entry ∈ database.documents, entry.2.history.length = w.perDocument) := by
  have hserves := Worker.serves_work hcalm hrevisions hnameless hempty (W.sources W.sourcesTaken)
  have hrun := hserves { W with sourcesTaken := W.sourcesTaken + 1 } rfl hcalm
  rw [Backend.run_work rfl]
  intro out hin
  obtain ⟨g, hfilling, huploads⟩ := hrun hin
  obtain ⟨database, hdatabase, hperm, hids, hdeep, htotal⟩ :=
    hfilling.filled.database hfilling.solo
  have hlength : database.documents.length = (W.server.named out.2.server).length := by
    rw [← hperm.length_eq, Table.keys, List.length_map]
  refine ⟨_, database, rfl, hdatabase, hperm, hids, ?_, hfilling.failed, hdeep, htotal, ?_⟩
  · rw [hlength]
    exact hfilling.filled.settled
  · intro hnone
    have hzero := hnone.elim huploads id
    refine Table.eq_of_total (fun d : StoredDocument => d.history.length) hdeep ?_
    rw [htotal]
    exact congrArg (_ + ·) hzero

/-! ### Small runs -/

/-- Documents that hold nothing, each written twice. -/
def Config.blank (bulkBatch : Nat) : Config where
  template := ⟨[.literal ['{', '}']]⟩
  bulkBatch
  revisions := 2

lemma Config.nameless_blank (bulkBatch counter : Nat) : (blank bulkBatch).Nameless counter := by
  intro s members hvalue
  have hblank : ((blank bulkBatch).template.value ((blank bulkBatch).context counter) s).1 =
      .ok (.object []) := rfl
  rw [hblank] at hvalue
  cases hvalue
  exact Or.inl rfl

/-- Two documents that are written one by one have both of their revisions. -/
theorem nameless_documents_one_by_one :
    let w : Worker := ⟨1, "testdb", ⟨1, 2⟩, Config.blank 1⟩
    let W := World.fresh (({} : Server).addDatabase "testdb") []
    let out := (Server.backend.work w).run W
    1 ≤ w.config.revisions ∧ W.server.pendingFailures = 0 ∧
      W.server.databases.get? "testdb" = some {} ∧ W.server.Unrepeated out.2.server ∧
      ∃ report database, out.1 = .ok report ∧
        out.2.server.databases.get? "testdb" = some database ∧
        report.stats.documentFailures = 0 ∧ database.documents.length = 2 ∧
        ∀ entry ∈ database.documents, entry.2.history.length = 2 := by
  have hleft := @nameless_documents ⟨1, "testdb", ⟨1, 2⟩, Config.blank 1⟩ (by decide)
    (fun counter _ => Config.nameless_blank 1 counter)
    (World.fresh (({} : Server).addDatabase "testdb") []) rfl none rfl
  simp only at hleft ⊢
  have hin : (World.fresh (({} : Server).addDatabase "testdb") []).server.Unrepeated
      ((Server.backend.work ⟨1, "testdb", ⟨1, 2⟩, Config.blank 1⟩).run
        (World.fresh (({} : Server).addDatabase "testdb") [])).2.server :=
    ⟨by decide +kernel, by decide +kernel⟩
  have hcounts : ((Server.backend.work ⟨1, "testdb", ⟨1, 2⟩, Config.blank 1⟩).run
      (World.fresh (({} : Server).addDatabase "testdb") [])).1.toOption.map (fun report =>
        (report.stats.documentFailures, report.stats.attachmentWrites)) = some (0, 0) := by
    decide +kernel
  obtain ⟨report, database, hok, hdatabase, -, -, hlength, -, -, -, heach⟩ := hleft hin
  rw [hok] at hcounts
  obtain ⟨hfailures, huploads⟩ := Prod.mk.inj (Option.some.inj hcounts)
  rw [hfailures] at hlength
  exact ⟨by decide, rfl, rfl, hin, report, database, hok, hdatabase, hfailures, hlength,
    heach (Or.inr huploads)⟩

/-- Written in batches, the one document that is asked for is two documents with one revision
each, though nothing fails. -/
theorem nameless_documents_split :
    let w : Worker := ⟨1, "testdb", ⟨1, 1⟩, Config.blank 2⟩
    let W := World.fresh (({} : Server).addDatabase "testdb") []
    let out := (Server.backend.work w).run W
    w.partition.size = 1 ∧ w.config.revisions = 2 ∧
      out.1.toOption.map (fun report => report.stats.documentFailures) = some 0 ∧
      (out.2.server.databases.get? "testdb").map (fun database =>
        database.documents.map fun entry => entry.2.history.length) = some [1, 1] := by
  decide +kernel

end CouchLoad
