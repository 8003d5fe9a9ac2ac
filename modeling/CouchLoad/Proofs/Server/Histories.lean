import CouchLoad.Proofs.Server.Steps
import CouchLoad.Proofs.Text.Numeral

/-!
# Histories of documents

Whatever happens to a server, the history of a document leads up to its current revision, one
generation after the other, its conflicts are different from each other, and no hash is issued
twice.
-/

namespace CouchLoad

namespace StoredDocument

/-- A document with a history that leads up to its current revision. -/
structure WellKept (d : StoredDocument) : Prop where
  nonempty : d.history ≠ []
  current : d.history.getLast? = some d.rev
  generations : d.history.IsChain fun older newer => newer.generation = older.generation + 1
  conflicts : d.conflicts.Nodup

lemma wellKept_first (rev : Revision) (body : Table Json) : (first rev body).WellKept where
  nonempty := List.cons_ne_nil _ _
  current := rfl
  generations := List.isChain_singleton _
  conflicts := List.nodup_nil

lemma WellKept.addConflict {d : StoredDocument} (h : d.WellKept) (rev : Revision) :
    (d.addConflict rev).WellKept where
  nonempty := by simpa using h.nonempty
  current := by simpa using h.current
  generations := by simpa using h.generations
  conflicts := by
    unfold StoredDocument.addConflict
    split
    · rename_i hnew
      rw [Bool.and_eq_true, Bool.not_eq_true', List.contains_eq_mem, decide_eq_false_iff_not]
        at hnew
      exact h.conflicts.append (List.nodup_singleton _) (by simpa using hnew.2)
    · exact h.conflicts

/-- One more revision has the next generation. -/
lemma Succeeds.wellKept {old : Option StoredDocument} {d : StoredDocument} (h : d.Succeeds old)
    (hold : ∀ e, old = some e → e.WellKept) : d.WellKept where
  nonempty := by simp [h.history]
  current := by simp [h.history]
  generations := by
    rw [h.history]
    cases old with
    | none => exact List.isChain_singleton _
    | some e =>
      refine List.isChain_append.2 ⟨(hold e rfl).generations, List.isChain_singleton _, ?_⟩
      intro last hlast next hnext
      rw [Option.map_some, Option.getD_some, (hold e rfl).current] at hlast
      cases hlast
      cases hnext
      simpa using h.generation
  conflicts := by
    rw [h.conflicts]
    cases old with
    | none => exact List.nodup_nil
    | some e => exact (hold e rfl).conflicts

end StoredDocument

namespace Server

/-- All documents of a server have histories that lead up to their current revisions. -/
def WellKept (s : Server) : Prop :=
  ∀ {db id : String} {d : StoredDocument}, s.document? db id = some d → d.WellKept

lemma wellKept_empty : ({} : Server).WellKept := by
  intro db id d h
  cases h

lemma Puts.wellKept {s t : Server} {db id : String} {d : StoredDocument} (h : Puts s t db id d)
    (hs : s.WellKept) (hd : d.WellKept) : t.WellKept := by
  intro db' id' d' hd'
  by_cases hplace : db' = db ∧ id' = id
  · obtain ⟨rfl, rfl⟩ := hplace
    rw [h.here] at hd'
    cases hd'
    exact hd
  · rw [h.elsewhere (by tauto)] at hd'
    exact hs hd'

lemma wellKept_replicated {old : Option StoredDocument} (hold : ∀ e, old = some e → e.WellKept)
    (rev : Revision) (body : Table Json) : (replicated old rev body).WellKept := by
  cases old with
  | none => exact StoredDocument.wellKept_first rev body
  | some e => exact (hold e rfl).addConflict rev

lemma Step.wellKept {s t : Server} {deeds : List Deed} (h : Step s deeds t) (hs : s.WellKept) :
    t.WellKept := by
  cases h with
  | rest documents hashes =>
    intro db id d hd
    rw [documents] at hd
    exact hs hd
  | update puts base_eq succeeds hash hashes =>
    exact puts.wellKept hs (succeeds.wellKept fun e he => hs he)
  | replica rev body puts hashes =>
    exact puts.wellKept hs (wellKept_replicated (fun e he => hs he) rev body)
  | delete here elsewhere hashes =>
    rename_i db
    intro db' id d hd
    by_cases hdb : db' = db
    · subst hdb
      rw [here] at hd
      cases hd
    · rw [elsewhere db' id hdb] at hd
      exact hs hd

lemma Steps.wellKept {s t : Server} {deeds : List Deed} (h : Steps s deeds t) (hs : s.WellKept) :
    t.WellKept := by
  induction h with
  | refl s => exact hs
  | step hstep _ ih => exact ih (hstep.wellKept hs)

/-! ### Hashes -/

/-- The hash with a number. -/
def counterHash (n : Nat) : String :=
  String.ofList (Text.hex 32 n)

lemma counterHash_injective : Function.Injective counterHash := by
  intro m n h
  exact Text.hex_injective 32 (String.ofList_inj.1 h)

lemma Step.hashes_le {s t : Server} {deeds : List Deed} (h : Step s deeds t) :
    s.hashes ≤ t.hashes := by
  cases h with
  | rest documents hashes => exact hashes
  | update puts base_eq succeeds hash hashes => exact hashes ▸ Nat.le_succ _
  | replica rev body puts hashes => exact Nat.le_of_eq hashes.symm
  | delete here elsewhere hashes => exact Nat.le_of_eq hashes.symm

/-- A step issues the next hash or none. -/
lemma Step.issued_eq {s t : Server} {deeds : List Deed} (h : Step s deeds t) :
    issued deeds = [] ∨
      t.hashes = s.hashes + 1 ∧ (issued deeds).map (·.hash) = [counterHash t.hashes] := by
  cases h with
  | rest documents hashes => exact Or.inl rfl
  | update puts base_eq succeeds hash hashes =>
    refine Or.inr ⟨hashes, ?_⟩
    simpa [issued, Deed.issued?, change, puts.here, hashes, counterHash] using hash
  | replica rev body puts hashes => exact Or.inl rfl
  | delete here elsewhere hashes => exact Or.inl rfl

/-- The hashes that are issued have numbers that go up, beyond those that were issued before. -/
lemma Steps.exists_numbers {s t : Server} {deeds : List Deed} (h : Steps s deeds t) :
    ∃ numbers : List Nat, (issued deeds).map (·.hash) = numbers.map counterHash ∧
      numbers.Pairwise (· < ·) ∧ ∀ n ∈ numbers, s.hashes < n := by
  induction h with
  | refl s => exact ⟨[], rfl, List.Pairwise.nil, by simp⟩
  | @step s t u deeds deeds' hstep _ ih =>
    obtain ⟨numbers, heq, hsorted, hbeyond⟩ := ih
    rw [issued_append, List.map_append, heq]
    rcases hstep.issued_eq with hnone | ⟨hnext, hone⟩
    · rw [hnone]
      exact ⟨numbers, rfl, hsorted, fun n hn => Nat.lt_of_le_of_lt hstep.hashes_le (hbeyond n hn)⟩
    · -- what is issued later has numbers beyond those of the state in between
      rw [hone]
      refine ⟨t.hashes :: numbers, rfl, List.pairwise_cons.2 ⟨hbeyond, hsorted⟩, ?_⟩
      intro n hn
      rcases List.mem_cons.1 hn with rfl | hn
      · omega
      · exact Nat.lt_of_le_of_lt hstep.hashes_le (hbeyond n hn)

/-- No hash is issued twice. -/
lemma Steps.nodup_hashes {s t : Server} {deeds : List Deed} (h : Steps s deeds t) :
    ((issued deeds).map (·.hash)).Nodup := by
  obtain ⟨numbers, heq, hsorted, -⟩ := h.exists_numbers
  rw [heq]
  exact hsorted.nodup.map counterHash_injective

/-- In every state that a new server comes to, each document has a history that leads up to its
current revision. All revisions that were issued on the way have been reported, and no two of them
have the same hash, whatever they are revisions of. -/
theorem wellKept_afterAll (os : List Occurrence) :
    (({} : Server).afterAll os).WellKept ∧
      ({} : Server).reported os = (issued (({} : Server).journal os)).map (·.display) ∧
      ((issued (({} : Server).journal os)).map (·.hash)).Nodup := by
  have hdoes := does_journal {} os
  exact ⟨hdoes.steps.wellKept wellKept_empty, hdoes.reports, hdoes.steps.nodup_hashes⟩

end Server

end CouchLoad
