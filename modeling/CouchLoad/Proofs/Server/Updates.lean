import CouchLoad.Proofs.Couch.Revision
import CouchLoad.Proofs.Server.Steps

/-!
# No update is lost

A revision that is accepted follows the one that its client has seen. While the database of a
document stays, its generations only go up, so a revision that is superseded never comes back and
no two accepted writes name the same one.
-/

namespace CouchLoad.Server

lemma bases_append (db id : String) (deeds deeds' : List Deed) :
    bases db id (deeds ++ deeds') = bases db id deeds ++ bases db id deeds' :=
  List.filterMap_append

/-- The revision that is current in a place, as text. -/
def currentText (old : Option StoredDocument) : Option String :=
  old.map (·.rev.display)

/-- How far a place has come: not at all, or to a generation. -/
def level : Option StoredDocument → Nat
  | none => 0
  | some d => d.rev.generation + 1

/-- A text tells how far a place has come. -/
lemma level_eq_of_currentText {old old' : Option StoredDocument}
    (h : currentText old = currentText old') : level old = level old' := by
  cases old with
  | none =>
    cases old' with
    | none => rfl
    | some d' => cases h
  | some d =>
    cases old' with
    | none => cases h
    | some d' =>
      have hrev : d.rev = d'.rev := Revision.display_injective (Option.some.inj h)
      simp [level, hrev]

lemma level_lt_of_succeeds {old : Option StoredDocument} {d : StoredDocument}
    (h : d.Succeeds old) : level old < level (some d) := by
  have hgeneration := h.generation
  cases old with
  | none => exact Nat.succ_pos _
  | some e =>
    simp only [Option.map_some, Option.getD_some] at hgeneration
    simp only [level]
    omega

/-- Replication does not take a place back. -/
lemma level_le_replicated (old : Option StoredDocument) (rev : Revision) (body : Table Json) :
    level old ≤ level (some (replicated old rev body)) := by
  cases old with
  | none => exact Nat.zero_le _
  | some d => simp [level, replicated]

lemma Puts.level_le {s t : Server} {db id : String} {d : StoredDocument} (h : Puts s t db id d)
    (hd : level (s.document? db id) ≤ level (some d)) (db' id' : String) :
    level (s.document? db' id') ≤ level (t.document? db' id') := by
  by_cases hplace : db' = db ∧ id' = id
  · obtain ⟨rfl, rfl⟩ := hplace
    rwa [h.here]
  · rw [h.elsewhere (by tauto)]

/-- As long as its database stays, no place is taken back. -/
lemma Step.level_le {s t : Server} {deeds : List Deed} (h : Step s deeds t) {db : String}
    (hstays : Deed.delete db ∉ deeds) (id : String) :
    level (s.document? db id) ≤ level (t.document? db id) := by
  cases h with
  | rest documents hashes => rw [documents]
  | update puts base_eq succeeds hash hashes =>
    exact puts.level_le (Nat.le_of_lt (level_lt_of_succeeds succeeds)) db id
  | replica rev body puts hashes => exact puts.level_le (level_le_replicated ..) db id
  | delete here elsewhere hashes =>
    have hdb := List.ne_of_not_mem_cons hstays
    rw [elsewhere db id fun heq => hdb (by rw [heq])]

/-- A step that writes to a place names what is current there, and takes the place further. -/
lemma Step.bases_eq {s t : Server} {deeds : List Deed} (h : Step s deeds t) (db id : String) :
    bases db id deeds = [] ∨ bases db id deeds = [currentText (s.document? db id)] ∧
      level (s.document? db id) < level (t.document? db id) := by
  cases h with
  | rest documents hashes => exact Or.inl rfl
  | @update _ db' id' base d puts base_eq succeeds hash hashes =>
    by_cases hplace : db' = db ∧ id' = id
    · obtain ⟨rfl, rfl⟩ := hplace
      refine Or.inr ⟨?_, ?_⟩
      · simp [bases, Deed.base?, change, base_eq, currentText]
      · rw [puts.here]
        exact level_lt_of_succeeds succeeds
    · refine Or.inl ?_
      simp [bases, Deed.base?, change, hplace]
  | replica rev body puts hashes => exact Or.inl rfl
  | delete here elsewhere hashes => exact Or.inl rfl

/-- The writes to a place name what was current there, each something later than the ones
before. -/
lemma Steps.exists_named {s t : Server} {deeds : List Deed} (h : Steps s deeds t) {db : String}
    (hstays : Deed.delete db ∉ deeds) (id : String) :
    ∃ named : List (Option StoredDocument), bases db id deeds = named.map currentText ∧
      named.Pairwise (fun old old' => level old < level old') ∧
      ∀ old ∈ named, level (s.document? db id) ≤ level old := by
  induction h with
  | refl s => exact ⟨[], rfl, List.Pairwise.nil, by simp⟩
  | @step s t u deeds deeds' hstep _ ih =>
    rw [List.mem_append, not_or] at hstays
    obtain ⟨named, heq, hsorted, hbeyond⟩ := ih hstays.2
    have hle := hstep.level_le hstays.1 id
    rw [bases_append, heq]
    rcases hstep.bases_eq db id with hnone | ⟨hone, hlt⟩
    · rw [hnone]
      exact ⟨named, rfl, hsorted, fun old hold => Nat.le_trans hle (hbeyond old hold)⟩
    · -- whatever is named later has come further than what this write left behind
      rw [hone]
      refine ⟨s.document? db id :: named, rfl, List.pairwise_cons.2 ⟨?_, hsorted⟩, ?_⟩
      · exact fun old hold => Nat.lt_of_lt_of_le hlt (hbeyond old hold)
      · intro old hold
        rcases List.mem_cons.1 hold with rfl | hold
        · exact Nat.le_refl _
        · exact Nat.le_trans hle (hbeyond old hold)

/-- As long as its database stays, no two writes to a place name the same. -/
lemma Steps.nodup_bases {s t : Server} {deeds : List Deed} (h : Steps s deeds t) {db : String}
    (hstays : Deed.delete db ∉ deeds) (id : String) : (bases db id deeds).Nodup := by
  obtain ⟨named, heq, hsorted, -⟩ := h.exists_named hstays id
  rw [heq]
  refine List.pairwise_map.2 (hsorted.imp fun hlt hsame => ?_)
  exact absurd (level_eq_of_currentText hsame) (Nat.ne_of_lt hlt)

/-- What is done to a document in the light of what it was before: a write names the revision that
was current, and a replicated revision leaves all but the conflicts alone. -/
def Orderly : Deed → Prop
  | .update base c => base = currentText c.before ∧ ∃ d, c.after = some d ∧ d.Succeeds c.before
  | .replica c => ∀ d, c.before = some d → ∃ rev, c.after = some (d.addConflict rev)
  | .delete _ => True

lemma Step.orderly {s t : Server} {deeds : List Deed} (h : Step s deeds t) :
    ∀ deed ∈ deeds, Orderly deed := by
  cases h with
  | rest documents hashes => simp
  | update puts base_eq succeeds hash hashes =>
    intro deed hdeed
    rw [List.mem_singleton.1 hdeed]
    exact ⟨base_eq, _, puts.here, succeeds⟩
  | @replica _ db id rev body puts hashes =>
    intro deed hdeed
    rw [List.mem_singleton.1 hdeed]
    intro d hd
    have hbefore : s.document? db id = some d := hd
    have hafter := puts.here
    rw [hbefore] at hafter
    exact ⟨rev, hafter⟩
  | delete here elsewhere hashes =>
    intro deed hdeed
    rw [List.mem_singleton.1 hdeed]
    exact trivial

lemma Steps.orderly {s t : Server} {deeds : List Deed} (h : Steps s deeds t) :
    ∀ deed ∈ deeds, Orderly deed := by
  induction h with
  | refl s => simp
  | step hstep _ ih =>
    intro deed hdeed
    rcases List.mem_append.1 hdeed with hdeed | hdeed
    · exact hstep.orderly deed hdeed
    · exact ih deed hdeed

/-- Whatever happens to a server while a database stays, each accepted write names the revision
that is current when it comes, or none where there is no document; no two writes to one place name
the same revision, and at most one names none. Replicated revisions do not change the revision, the
history, the body or the attachments of a document. The journal, of which all of this is said,
leaves out no revision that a client is told. -/
theorem no_lost_update (s : Server) (os : List Occurrence) (db id : String)
    (hstays : Deed.delete db ∉ s.journal os) :
    (∀ base c, Deed.update base c ∈ s.journal os → base = c.before.map (·.rev.display)) ∧
      (bases db id (s.journal os)).Nodup ∧
      (∀ c, Deed.replica c ∈ s.journal os → ∀ d, c.before = some d → ∃ d', c.after = some d' ∧
        d'.rev = d.rev ∧ d'.history = d.history ∧ d'.body = d.body ∧
        d'.attachments = d.attachments) ∧
      s.reported os = (issued (s.journal os)).map (·.display) := by
  have hdoes := does_journal s os
  refine ⟨?_, hdoes.steps.nodup_bases hstays id, ?_, hdoes.reports⟩
  · intro base c hc
    exact (hdoes.steps.orderly _ hc).1
  · intro c hc d hd
    obtain ⟨rev, hafter⟩ := hdoes.steps.orderly _ hc d hd
    exact ⟨d.addConflict rev, hafter, by simp⟩

/-- Two clients write on top of the first revision of a document, and a third one replicates a
revision of its own. -/
def contention : List Occurrence :=
  let files : Files := fun _ => .error .notFound
  let create := (Request.plain .put ["db", "a"]).withJson (.object [])
  let update := create.withQuery "rev" "1-00000000000000000000000000000001"
  let replica := (Request.plain .post ["db", "_bulk_docs"]).withJson (.object
    [("new_edits", .bool false),
      ("docs", .array [.object [("_id", .string "a"), ("_rev", .string "7-x")]])])
  [.addDatabase "db", .request files create, .request files update, .request files update,
    .request files replica]

/-- Of two writes on top of one revision the first is accepted. -/
theorem no_lost_update_contention :
    Deed.delete "db" ∉ ({} : Server).journal contention ∧
      bases "db" "a" (({} : Server).journal contention) =
        [none, some "1-00000000000000000000000000000001"] ∧
      (bases "db" "a" (({} : Server).journal contention)).Nodup := by
  have hstays : Deed.delete "db" ∉ ({} : Server).journal contention := by decide +kernel
  refine ⟨hstays, by decide +kernel, ?_⟩
  exact (no_lost_update {} contention "db" "a" hstays).2.1

end CouchLoad.Server
