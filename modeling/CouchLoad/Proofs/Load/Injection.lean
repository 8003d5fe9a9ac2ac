import CouchLoad.Proofs.Load.Branching
import CouchLoad.Proofs.Load.Rules
import CouchLoad.Proofs.Program.Attempts

/-!
# Passes that write conflicts

In every pass each known document gets one more conflict, as often as it stands in the list, unless
the request of the pass is dropped together with its second attempt. Nothing else changes, and what
is counted as written are the conflicts that have been added.
-/

namespace CouchLoad

open Entropy Server Session

namespace Conflict

/-- Hashes that differ from each other, from all in the database and from those that are known. -/
structure Fresh (s : Server) (db : String) (tracker : Tracker) (hashes : List String) : Prop where
  nodup : hashes.Nodup
  unused : ∀ hash ∈ hashes, s.Unused db hash
  unknown : ∀ id rev, tracker.get? id = some rev → rev.hash ∉ hashes

/-- What is known are proper revisions, of documents that are there. -/
structure Grounded (s : Server) (db : String) (tracker : Tracker) (documents : List Document) :
    Prop where
  wellFormed : ∀ d ∈ documents, d.WellFormed
  generation : ∀ id rev, tracker.get? id = some rev →
    0 < rev.generation ∧ rev.generation < 2 ^ 64
  stored : ∀ id rev, tracker.get? id = some rev → (s.document? db id).isSome

variable {S : Premise} {s : Server} {db : String} {tracker : Tracker} {documents : List Document}
  {us : List Uuid} {hashes hashes' : List String}

lemma Fresh.sublist (h : Fresh s db tracker hashes) (hsub : hashes'.Sublist hashes) :
    Fresh s db tracker hashes' where
  nodup := h.nodup.sublist hsub
  unused hash hmem := h.unused hash (hsub.subset hmem)
  unknown id rev hrev hmem := h.unknown id rev hrev (hsub.subset hmem)

/-! ### Siblings -/

lemma hashes_siblings (h : us.length = (known tracker documents).length) :
    (siblings tracker documents us).map (·.2.hash) = us.map Uuid.simple := by
  have hlength : us.length ≤ (tracked tracker documents).length := by
    rw [h, ← map_fst_tracked, List.length_map]
  have hzip := List.map_snd_zip hlength
  rw [← congrArg (List.map Uuid.simple) hzip]
  simp [siblings, Revision.conflictingSibling]

lemma length_siblings (h : us.length = (known tracker documents).length) :
    (siblings tracker documents us).length = (known tracker documents).length := by
  rw [← map_fst_siblings h, List.length_map]

/-- The conflicts that siblings are, each with the id of its document. -/
def additions (tracker : Tracker) (documents : List Document) (us : List Uuid) :
    List (String × Revision) :=
  (siblings tracker documents us).map fun entry => (entry.1.id, entry.2)

lemma ids_additions (h : us.length = (known tracker documents).length) :
    (additions tracker documents us).map Prod.fst = (known tracker documents).map (·.id) := by
  rw [← map_fst_siblings h]
  simp [additions]

lemma hashes_additions (h : us.length = (known tracker documents).length) :
    (additions tracker documents us).map (·.2.hash) = us.map Uuid.simple := by
  rw [← hashes_siblings h]
  simp [additions]

/-! ### Passes -/

/-- What has come of some passes: the conflicts that have been added, and how they are counted. -/
structure Injected (S : Premise) (db : String) (tracker : Tracker) (documents : List Document)
    (passes : Nat) (o : Outcome) (added : List (String × Revision)) (t : Server) : Prop where
  follows : S.Follows t
  branched : S.start.Branched t db added
  ids : added.map Prod.fst =
    (List.replicate (S.arrived t).length ((known tracker documents).map (·.id))).flatten
  sibling : ∀ entry ∈ added, ∃ rev u,
    tracker.get? entry.1 = some rev ∧ entry.2 = rev.conflictingSibling u
  arrived : (S.arrived t).length ≤ passes
  written : o.written = (S.arrived t).length * (known tracker documents).length
  settled : o.written + o.failed = passes * (known tracker documents).length

namespace Injected

variable {passes : Nat} {o : Outcome} {added : List (String × Revision)} {t u : Server}

lemma start : Injected S db tracker documents 0 {} [] S.start := by
  have harrived : S.arrived S.start = [] := by rw [Premise.arrived, S.log_start, passed]
  constructor
  · exact S.follows_start
  · exact .of_databases rfl
  · simp [harrived]
  · simp
  · simp [harrived]
  · simp [harrived]
  · simp

/-- Without known documents there is nothing to count. -/
lemma idle (h : Injected S db tracker documents passes o added s)
    (hknown : known tracker documents = []) (n : Nat) :
    Injected S db tracker documents (passes + n) o added s where
  follows := h.follows
  branched := h.branched
  ids := h.ids
  sibling := h.sibling
  arrived := Nat.le_add_right_of_le h.arrived
  written := h.written
  settled := by simpa [hknown] using h.settled

/-- A pass whose request has been dropped twice adds nothing. -/
lemma drop (h : Injected S db tracker documents passes o added s) (hfollows : S.Follows t)
    (hdatabases : t.databases = s.databases) (harrived : S.arrived t = S.arrived s) (time : Nat) :
    Injected S db tracker documents (passes + 1)
      (o.reject (known tracker documents).length time) added t where
  follows := hfollows
  branched := h.branched.congr_right hdatabases
  ids := by rw [harrived, h.ids]
  sibling := h.sibling
  arrived := by
    rw [harrived]
    exact Nat.le_succ_of_le h.arrived
  written := by
    rw [harrived]
    exact h.written
  settled := by
    have hsettled := h.settled
    simp only [Outcome.reject, Nat.succ_mul]
    omega

section Arrived

variable (h : Injected S db tracker documents passes o added s)
  (hground : Grounded S.start db tracker documents)
  (hlength : us.length = (known tracker documents).length)
  (hfresh : Fresh S.start db tracker (added.map (·.2.hash) ++ us.map Uuid.simple))
  (hdatabases : u.databases = s.databases)
include h hground hlength hfresh hdatabases

/-- What a pass sends is about documents that are there, and its hashes are new to them. -/
lemma acceptable (entry : Document × Revision) (hentry : entry ∈ siblings tracker documents us) :
    entry.1.WellFormed ∧ entry.2.Readable ∧ (u.document? db entry.1.id).isSome ∧
      u.Unused db entry.2.hash := by
  have hbefore : S.start.Branched u db added := h.branched.congr_right hdatabases
  obtain ⟨rev, v, hv, hrev, hsibling⟩ := sibling_of_mem_siblings hentry
  have hhash : entry.2.hash ∈ us.map Uuid.simple := by
    rw [hsibling]
    exact List.mem_map_of_mem hv
  have hdocument : entry.1 ∈ known tracker documents := by
    rw [← map_fst_siblings hlength]
    exact List.mem_map_of_mem hentry
  refine ⟨hground.wellFormed _ (List.mem_of_mem_filter hdocument), ?_, ?_, ?_⟩
  · obtain ⟨hpositive, hgeneration⟩ := hground.generation _ rev hrev
    rw [hsibling]
    exact Revision.readable_sibling hpositive hgeneration v
  · rw [hbefore.isSome_document?]
    exact hground.stored _ rev hrev
  · refine hbefore.unused (hfresh.unused _ (List.mem_append_right _ hhash)) fun hadded => ?_
    exact (List.nodup_append.1 hfresh.nodup).2.2 _ hadded _ hhash rfl

/-- The server takes all of what a pass sends. -/
lemma respond_pass (hknown : known tracker documents ≠ []) (files : Files) :
    let out := u.respond files (Operation.bulkDocuments db
      (conflictBodies (siblings tracker documents us)) false).request
    out.1 = .ok ⟨201, .array []⟩ ∧ u.Branched out.2 db (additions tracker documents us) := by
  have haccepted := h.acceptable hground hlength hfresh hdatabases
  have hnodup : ((siblings tracker documents us).map (·.2.hash)).Nodup := by
    rw [hashes_siblings hlength]
    exact (List.nodup_append.1 hfresh.nodup).2.1
  obtain ⟨hresults, hbranched⟩ := branched_replicateEntries _ haccepted hnodup
  have hcontains : u.databases.contains db = true := by
    have hsome : siblings tracker documents us ≠ [] := by
      intro hnil
      rw [← map_fst_siblings hlength, hnil] at hknown
      exact hknown rfl
    obtain ⟨entry, hentry⟩ := List.exists_mem_of_ne_nil _ hsome
    obtain ⟨stored, hstored⟩ := Option.isSome_iff_exists.1 (haccepted entry hentry).2.2.1
    obtain ⟨database, hdb, -⟩ := Option.bind_eq_some_iff.1 hstored
    simp [Table.contains, hdb]
  rw [Operation.respond_bulkDocuments hcontains files _ false]
  exact ⟨by simp [hresults], hbranched⟩

/-- A pass whose request has reached the server gives each known document a sibling. -/
lemma add (hknown : known tracker documents ≠ []) (files : Files) (time : Nat) :
    let request := (Operation.bulkDocuments db
      (conflictBodies (siblings tracker documents us)) false).request
    S.Follows (u.respond files request).2 →
      S.arrived (u.respond files request).2 = S.arrived s ++ [request] →
        (u.respond files request).1 = .ok ⟨201, .array []⟩ ∧
          Injected S db tracker documents (passes + 1)
            (o.accept (known tracker documents).length 0 time)
            (added ++ additions tracker documents us) (u.respond files request).2 := by
  intro request hfollows harrived
  obtain ⟨hanswer, hbranched⟩ := h.respond_pass hground hlength hfresh hdatabases hknown files
  refine ⟨hanswer, hfollows, (h.branched.congr_right hdatabases).trans hbranched, ?ids, ?sibling,
    ?arrived, ?written, ?settled⟩
  case ids =>
    rw [harrived, List.map_append, h.ids, ids_additions hlength, List.length_append,
      List.length_singleton, List.replicate_add, List.flatten_append]
    simp
  case sibling =>
    intro entry hentry
    rcases List.mem_append.1 hentry with hentry | hentry
    · exact h.sibling entry hentry
    · obtain ⟨sibling, hsibling, rfl⟩ := List.mem_map.1 hentry
      obtain ⟨rev, v, -, hrev, heq⟩ := sibling_of_mem_siblings hsibling
      exact ⟨rev, v, hrev, heq⟩
  case arrived =>
    rw [harrived, List.length_append, List.length_singleton]
    exact Nat.succ_le_succ h.arrived
  case written =>
    rw [harrived, List.length_append, List.length_singleton, Nat.succ_mul, ← h.written]
    rfl
  case settled =>
    have hsettled := h.settled
    simp only [Outcome.accept, Nat.succ_mul, Nat.sub_zero]
    omega

end Arrived

end Injected

/-- What has come of some passes before others that are left: these will draw what is new to all
that has been added. -/
structure Injecting (S : Premise) (db : String) (tracker : Tracker) (documents : List Document)
    (passes left : Nat) (o : Outcome) (source : Source) (t : Server) (done : Nat)
    (added : List (String × Revision)) : Prop where
  split : done + left = passes
  injected : Injected S db tracker documents done o added t
  fresh : Fresh S.start db tracker (added.map (·.2.hash) ++
    (Uuid.drawMany (left * (known tracker documents).length) source).1.map Uuid.simple)

/-- A pass draws its identifiers before those of the passes that follow, whether its request arrives
or not. -/
lemma leads_pass {σ : Type} (hground : Grounded S.start db tracker documents) (files : Files)
    {passes left : Nat} {o : Outcome} {source : Source} {t : Server} {done : Nat}
    {added : List (String × Revision)} (link : Link σ) (pass : Nat)
    (h : Injecting S db tracker documents passes (left + 1) o source t done added) :
    let (bodies, s) := forge tracker documents source
    bodies ≠ [] → (perform (.bulkDocuments db bodies false)).Leads (unsteady S.outages) files
      (fun result t link' => link'.owner = link.owner ∧ ∀ time, ∃ added,
        match result with
        | .ok results => Injecting S db tracker documents passes left
            (o.accept bodies.length (failures db pass results).length time) s t (done + 1) added
        | .error _ => Injecting S db tracker documents passes left
            (o.reject bodies.length time) s t (done + 1) added) t link := by
  have hforge := forge_siblings tracker documents source
  have hlength := Uuid.length_drawMany (known tracker documents).length source
  have hsplit : done + 1 + left = passes := by rw [Nat.add_assoc, Nat.add_comm 1, h.split]
  have hfresh := h.fresh
  rw [Nat.succ_mul, Nat.add_comm (_ * _), Uuid.drawMany_add, List.map_append] at hfresh
  generalize Uuid.drawMany (known tracker documents).length source = drawn at *
  obtain ⟨us, source'⟩ := drawn
  simp only at hforge hlength hfresh
  have hbodies : (conflictBodies (siblings tracker documents us)).length =
      (known tracker documents).length := by
    rw [conflictBodies, List.length_map, length_siblings hlength]
  rw [hforge]
  refine fun hsome => Premise.leads_perform h.injected.follows ?_
  have hknown : known tracker documents ≠ [] := by
    intro hnil
    rw [hnil, List.length_nil] at hbodies
    exact hsome (List.length_eq_zero_iff.1 hbodies)
  intro answer t' link' howner hsent
  refine ⟨howner, fun time => ?_⟩
  cases hsent with
  | dropped e hfollows hdatabases harrived =>
    -- what has been drawn for this pass is lost
    refine ⟨added, hsplit, ?_, hfresh.sublist ?_⟩
    · rw [hbodies]
      exact h.injected.drop hfollows hdatabases harrived time
    · exact (List.Sublist.refl _).append (List.sublist_append_right ..)
  | through files hdatabases hfollows harrived =>
    rw [← List.append_assoc] at hfresh
    obtain ⟨hanswer, hadd⟩ := h.injected.add hground hlength
      (hfresh.sublist (List.sublist_append_left ..)) hdatabases hknown files time hfollows
      harrived
    have hread : (Operation.bulkDocuments db
        (conflictBodies (siblings tracker documents us)) false).outcome
          (.ok ⟨201, .array []⟩) = .ok [] := by
      simp [Operation.outcome, Operation.bulkDocuments, Operation.accepted,
        Response.isSuccess, BulkResult.listOfJson?]
    rw [hanswer, hread, hbodies]
    rw [← hashes_additions hlength, ← List.map_append] at hfresh
    exact ⟨_, hsplit, hadd, hfresh⟩

/-- The loop over the passes. -/
lemma leads_injectPasses {σ : Type} (hground : Grounded S.start db tracker documents)
    (files : Files) (passes : List Nat) {source : Source} (link : Link σ)
    (hfresh : Fresh S.start db tracker
      ((Uuid.drawMany (passes.length * (known tracker documents).length) source).1.map
        Uuid.simple)) :
    (injectPasses db documents tracker {} source passes).Leads (unsteady S.outages) files
      (fun out t link' => link'.owner = link.owner ∧ ∃ added,
        Fresh S.start db tracker (added.map (·.2.hash)) ∧
          Injected S db tracker documents passes.length out.1 added t) S.start link := by
  refine (leads_logic _ files).holds_injectPasses (fun left o source t link' =>
    link'.owner = link.owner ∧ ∃ done added,
      Injecting S db tracker documents passes.length left.length o source t done added)
    ?none ?pass ?finish passes ⟨rfl, 0, [], Nat.zero_add _, .start, hfresh⟩
  case none =>
    rintro pass left o source t link' ⟨howner, done, added, h⟩ hempty
    have hlength := Uuid.length_drawMany (known tracker documents).length source
    have hknown : known tracker documents = [] := by
      rw [forge_siblings, conflictBodies, List.map_eq_nil_iff] at hempty
      rw [← map_fst_siblings hlength, hempty, List.map_nil]
    refine ⟨howner, added, h.fresh.sublist (List.sublist_append_left ..), ?_⟩
    rw [← h.split]
    exact h.injected.idle hknown _
  case pass =>
    rintro pass left o source t link' ⟨howner, done, added, h⟩ hsome
    refine ⟨trivial, (leads_pass hground files link' pass h hsome).mono ?_⟩
    rintro result t link'' ⟨howner', hnext⟩
    refine ⟨trivial, fun time => ?_⟩
    obtain ⟨added, hnext⟩ := hnext time
    cases result with
    | ok results => exact ⟨howner'.trans howner, done + 1, added, hnext⟩
    | error e => exact ⟨howner'.trans howner, done + 1, added, hnext⟩
  case finish =>
    rintro o source t link' ⟨howner, done, added, h⟩
    have hdone : done = passes.length := h.split
    exact ⟨howner, added, h.fresh.sublist (List.sublist_append_left ..), hdone ▸ h.injected⟩

/-! ### Results -/

/-- An id stands among the known documents as often as among all, if it is known itself. -/
lemma count_known (tracker : Tracker) (documents : List Document) (id : String) :
    ((known tracker documents).map (·.id)).count id =
      if (tracker.get? id).isSome then (documents.map (·.id)).count id else 0 := by
  induction documents with
  | nil => simp [known]
  | cons d ds ih =>
    by_cases hid : d.id = id
    · subst hid
      by_cases hd : (tracker.get? d.id).isSome <;> simp_all [known]
    · by_cases hd : (tracker.get? d.id).isSome <;> simp_all [known]

lemma Injected.length_branches {passes : Nat} {o : Outcome} {added : List (String × Revision)}
    {t : Server} (h : Injected S db tracker documents passes o added t) (id : String) :
    (branches added id).length = (S.arrived t).length *
      if (tracker.get? id).isSome then (documents.map (·.id)).count id else 0 := by
  rw [CouchLoad.length_branches, h.ids, List.count_flatten, List.map_replicate,
    List.sum_replicate_nat, count_known]

lemma Injected.length_added {passes : Nat} {o : Outcome} {added : List (String × Revision)}
    {t : Server} (h : Injected S db tracker documents passes o added t) :
    added.length = o.written := by
  rw [h.written, ← List.length_map (f := Prod.fst), h.ids, List.length_flatten,
    List.map_replicate, List.sum_replicate_nat, List.length_map]

/-- Injecting conflicts adds one to a document for each pass that has reached the server and each
time that the document stands in the list, if a revision of it is known, and changes nothing else.
It counts as written what it has added, and as failed the rest. -/
theorem inject_adds_siblings {σ : Type} (outages : Nat → Option Nat) {w : World Server}
    (link : Link σ) {source : Source} {passes : Nat}
    (hground : Grounded w.server db tracker documents)
    (hfresh : Fresh w.server db tracker ((Uuid.drawMany
      (passes * (known tracker documents).length) source).1.map Uuid.simple)) :
    let out := ((unsteady outages).session link
      (inject db passes documents tracker source)).run w
    let o := out.1.1.1
    let t := out.2.server
    let arrived := passed outages w.server.requests.size w.server.pendingFailures
      (t.requests.toList.drop w.server.requests.size)
    out.1.2.owner = link.owner ∧ arrived.length ≤ passes ∧
      (∃ added, w.server.Branched t db added ∧ added.length = o.written ∧
        ∀ id,
          (branches added id).length = arrived.length *
            (if (tracker.get? id).isSome then (documents.map (·.id)).count id else 0) ∧
          ∀ rev ∈ branches added id, ∃ current, tracker.get? id = some current ∧
            rev.generation = current.generation ∧ rev.hash ≠ current.hash) ∧
      o.written = arrived.length * (known tracker documents).length ∧
      o.written + o.failed = passes * (known tracker documents).length := by
  intro out o t arrived
  let S : Premise := ⟨outages, w.server, True⟩
  have hlength : (List.range' 1 passes).length = passes := List.length_range'
  rw [← hlength] at hfresh
  have hleads := leads_injectPasses (S := S) hground w.files (List.range' 1 passes) link hfresh
  obtain ⟨-, howner, added, hadded, hinjected⟩ := hleads w rfl rfl
  rw [hlength] at hinjected
  refine ⟨howner, hinjected.arrived, ⟨added, hinjected.branched, hinjected.length_added, ?_⟩,
    hinjected.written, hinjected.settled⟩
  intro id
  refine ⟨hinjected.length_branches id, fun rev hrev => ?_⟩
  have hmem := mem_branches_iff.1 hrev
  obtain ⟨current, u, hcurrent, rfl⟩ := hinjected.sibling _ hmem
  refine ⟨current, hcurrent, rfl, fun heq => hadded.unknown id current hcurrent ?_⟩
  rw [← heq]
  exact List.mem_map_of_mem hmem

/-- A server with two documents. -/
def smallServer : Server where
  databases := [("db", { documents := [("a", .first ⟨1, "1"⟩ []), ("b", .first ⟨1, "2"⟩ [])] })]

/-- The revisions of both documents. -/
def smallTracker : Tracker := [("a", ⟨1, "1"⟩), ("b", ⟨1, "2"⟩)]

/-- A list in which one document stands twice, and with the two of them one that is unknown. -/
def smallDocuments : List Document :=
  ["a", "b", "a", "c"].map fun id => ⟨id, none, [], []⟩

/-- The first two requests are dropped. -/
def smallOutages (number : Nat) : Option Nat :=
  if number = 0 then some 2 else none

/-- Two passes, of which the first one does not reach the server. -/
def smallInjection : ((Outcome × Source) × Link Unit) × World Server :=
  ((unsteady smallOutages).session { owner := () }
    (inject "db" 2 smallDocuments smallTracker (.ofSeed 0))).run (World.fresh smallServer [])

/-- An instance with a document that stands in the list twice, one that is unknown, and a pass that
is dropped. -/
theorem inject_adds_siblings_small :
    smallInjection.1.1.1.written = 3 ∧ smallInjection.1.1.1.failed = 3 ∧
      ∃ added, smallServer.Branched smallInjection.2.server "db" added ∧
        (branches added "a").length = 2 ∧ (branches added "b").length = 1 ∧
        branches added "c" = [] := by
  have hmem : ∀ id rev, smallTracker.get? id = some rev →
      (id, rev) = ("a", ⟨1, "1"⟩) ∨ (id, rev) = ("b", ⟨1, "2"⟩) := by
    intro id rev hrev
    simpa [smallTracker] using Table.mem_of_get? hrev
  have hground : Grounded (World.fresh smallServer []).server "db" smallTracker smallDocuments := by
    constructor
    · intro d hd
      obtain ⟨id, -, rfl⟩ := List.mem_map.1 hd
      exact ⟨List.nodup_nil, fun _ _ => List.not_mem_nil⟩
    · intro id rev hrev
      rcases hmem id rev hrev with h | h <;> cases h <;> constructor <;> decide
    · intro id rev hrev
      rcases hmem id rev hrev with h | h <;> cases h <;> decide
  have hfresh : Fresh (World.fresh smallServer []).server "db" smallTracker ((Uuid.drawMany
      (2 * (known smallTracker smallDocuments).length) (.ofSeed 0)).1.map Uuid.simple) := by
    constructor
    · decide +kernel
    · refine fun hash hhash => unused_of_forall rfl ?_
      revert hash
      decide +kernel
    · intro id rev hrev
      rcases hmem id rev hrev with h | h <;> cases h <;> decide +kernel
  have harrived : (passed smallOutages 0 0 smallInjection.2.server.requests.toList).length = 1 := by
    decide +kernel
  have hresult := inject_adds_siblings smallOutages { owner := () } hground hfresh
  refine ⟨by decide +kernel, by decide +kernel, ?_⟩
  unfold smallInjection at harrived ⊢
  obtain ⟨added, hbranched, -, hadded⟩ := hresult.2.2.1
  have hlength : ∀ id, (branches added id).length = 1 *
      if (smallTracker.get? id).isSome then (smallDocuments.map (·.id)).count id else 0 := by
    intro id
    rw [← harrived]
    exact (hadded id).1
  refine ⟨added, hbranched, ?_, ?_, ?_⟩
  · exact (hlength "a").trans (by decide)
  · exact (hlength "b").trans (by decide)
  · exact List.length_eq_zero_iff.1 ((hlength "c").trans (by decide))

end Conflict

end CouchLoad
