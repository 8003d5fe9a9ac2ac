import CouchLoad.Proofs.Program.Backends
import CouchLoad.Proofs.Server.Frame
import CouchLoad.Simulation.Outages
import Mathlib.Algebra.BigOperators.Intervals

/-!
# Requests that get through

A request is dropped, and then it has changed nothing but the log, or it is responded to. Which of
the two it is can be found out from the log and the outages, so the revisions that were made up by
clients and have reached the server are known as well.
-/

namespace CouchLoad

namespace Server

variable (outages : Nat → Option Nat)

lemma stillPending_append (number pending : Nat) (rs : List Request) (r : Request) :
    stillPending outages number pending (rs ++ [r]) =
      (outages (number + rs.length)).getD (stillPending outages number pending rs) - 1 := by
  induction rs generalizing number pending with
  | nil => rfl
  | cons q rs ih =>
    rw [List.cons_append, stillPending, ih, List.length_cons, stillPending, Nat.add_assoc,
      Nat.add_comm 1]

/-- The last of some requests gets through if nothing is pending when it comes in. -/
lemma passed_append (number pending : Nat) (rs : List Request) (r : Request) :
    passed outages number pending (rs ++ [r]) = passed outages number pending rs ++
      if (outages (number + rs.length)).getD (stillPending outages number pending rs) = 0 then [r]
      else [] := by
  induction rs generalizing number pending with
  | nil => rfl
  | cons q rs ih =>
    simp only [List.cons_append, passed, ih, List.length_cons, stillPending, Nat.add_assoc,
      Nat.add_comm 1]
    split <;> rfl

lemma passed_prefix (number pending : Nat) {rs rs' : List Request} (h : rs <+: rs') :
    passed outages number pending rs <+: passed outages number pending rs' := by
  induction rs generalizing number pending rs' with
  | nil => exact List.nil_prefix
  | cons q rs ih =>
    obtain ⟨rest, rfl⟩ := h
    have htail := ih (number + 1) ((outages number).getD pending - 1) (List.prefix_append rs rest)
    simp only [List.cons_append, passed]
    split
    · exact (List.prefix_cons_inj q).2 htail
    · exact htail

@[simp] lemma requests_interrupt (s : Server) : (s.interrupt outages).requests = s.requests := by
  unfold interrupt
  split <;> rfl

@[simp] lemma databases_interrupt (s : Server) : (s.interrupt outages).databases = s.databases := by
  unfold interrupt
  split <;> rfl

@[simp] lemma hashes_interrupt (s : Server) : (s.interrupt outages).hashes = s.hashes := by
  unfold interrupt
  split <;> rfl

lemma pendingFailures_interrupt (s : Server) : (s.interrupt outages).pendingFailures =
    (outages s.requests.size).getD s.pendingFailures := by
  unfold interrupt
  split <;> simp_all [failNext]

lemma requests_handle (s : Server) (files : Files) (r : Request) :
    (s.handle files r).2.requests = s.requests.push r := by
  unfold handle
  simp only
  split
  · rfl
  · exact (precedes_respond _ files r).requests

lemma hashes_le_handle (s : Server) (files : Files) (r : Request) :
    s.hashes ≤ (s.handle files r).2.hashes := by
  unfold handle
  simp only
  split
  · exact Nat.le_refl _
  · exact (precedes_respond { s with requests := s.requests.push r } files r).hashes

end Server

open Server

/-- A world at its beginning, where workers take turns as scheduled. -/
def World.fresh (server : Server) (schedules : List (List Nat)) : World Server where
  server
  files _ := .error .notFound
  sources n := .ofSeed n.toUInt64
  schedules

/-- Where something starts and what it can count on: the outages to come, the server at the start,
and whether clients never make up the same revision twice. -/
structure Premise where
  outages : Nat → Option Nat
  start : Server
  distinct : Prop

namespace Premise

variable (S : Premise)

/-- No request is dropped. -/
structure Steady : Prop where
  outages : S.outages = fun _ => none
  pending : S.start.pendingFailures = 0

/-- The requests since the start. -/
def log (s : Server) : List Request :=
  s.requests.toList.drop S.start.requests.size

/-- The revisions since the start that were made up by clients and have reached the server. -/
def forged (s : Server) : List String :=
  (passed S.outages S.start.requests.size S.start.pendingFailures (S.log s)).flatMap Request.forged

/-- The requests since the start that have reached the server. -/
def arrived (s : Server) : List Request :=
  passed S.outages S.start.requests.size S.start.pendingFailures (S.log s)

/-- The server has come from the start. -/
structure Follows (s : Server) : Prop where
  size : S.start.requests.size ≤ s.requests.size
  pending : s.pendingFailures =
    stillPending S.outages S.start.requests.size S.start.pendingFailures (S.log s)

/-- The server counts hashes with 64 bits, and what is made up is different if that is so. -/
structure Bounded (s : Server) : Prop where
  hashes : s.hashes < 2 ^ 64
  nodup : S.distinct → (S.forged s).Nodup

lemma log_start : S.log S.start = [] := List.drop_of_length_le (by simp)

lemma follows_start : S.Follows S.start := ⟨Nat.le_refl _, by rw [log_start, stillPending]⟩

lemma log_push {s t : Server} {r : Request} (hsize : S.start.requests.size ≤ s.requests.size)
    (h : t.requests = s.requests.push r) : S.log t = S.log s ++ [r] := by
  unfold log
  rw [h, Array.toList_push, List.drop_append_of_le_length (by simpa using hsize)]

lemma Follows.length_log {S : Premise} {s : Server} (hs : S.Follows s) :
    S.start.requests.size + (S.log s).length = s.requests.size := by
  have := hs.size
  simp [log]
  omega

/-- Without outages nothing is ever pending. -/
lemma Steady.stillPending_eq {S : Premise} (h : S.Steady) (number : Nat) (rs : List Request) :
    stillPending S.outages number S.start.pendingFailures rs = 0 := by
  rw [h.outages, h.pending]
  induction rs generalizing number with
  | nil => rfl
  | cons r rs ih => exact ih (number + 1)

/-- A request has been dropped. -/
structure Dropped (s t : Server) : Prop where
  databases : t.databases = s.databases
  hashes : t.hashes = s.hashes
  forged : S.forged t = S.forged s

lemma log_handle {S : Premise} {s : Server} (h : S.Follows s) (files : Files) (r : Request) :
    S.log ((s.interrupt S.outages).handle files r).2 = S.log s ++ [r] := by
  apply S.log_push h.size
  rw [requests_handle, requests_interrupt]

/-- A request that comes while failures are pending is dropped, and leaves one failure less. -/
lemma stillPending_handle {s : Server} (hs : S.Follows s) (files : Files) (r : Request) :
    stillPending S.outages S.start.requests.size S.start.pendingFailures
        (S.log ((s.interrupt S.outages).handle files r).2) =
      (s.interrupt S.outages).pendingFailures - 1 := by
  rw [log_handle hs, stillPending_append, hs.length_log, pendingFailures_interrupt, hs.pending]

/-- A request gets through or it does not, as the failures say that are pending when it comes. -/
lemma passed_handle {S : Premise} {s : Server} (h : S.Follows s) (files : Files) (r : Request) :
    passed S.outages S.start.requests.size S.start.pendingFailures
        (S.log ((s.interrupt S.outages).handle files r).2) =
      passed S.outages S.start.requests.size S.start.pendingFailures (S.log s) ++
        if (s.interrupt S.outages).pendingFailures = 0 then [r] else [] := by
  rw [log_handle h, passed_append, h.length_log, pendingFailures_interrupt, h.pending]

lemma Follows.handle {S : Premise} {s : Server} (h : S.Follows s) (files : Files) (r : Request) :
    S.Follows ((s.interrupt S.outages).handle files r).2 := by
  constructor
  · rw [requests_handle, requests_interrupt, Array.size_push]
    exact Nat.le_succ_of_le h.size
  · rw [S.stillPending_handle h, pendingFailures_handle]

/-- What a request makes up counts if it reaches the server. -/
lemma forged_handle {s : Server} (hs : S.Follows s) (files : Files) (r : Request) :
    S.forged ((s.interrupt S.outages).handle files r).2 = S.forged s ++
      if (s.interrupt S.outages).pendingFailures = 0 then r.forged else [] := by
  unfold forged
  rw [passed_handle hs]
  split <;> simp

/-- A request is dropped, unless there are no outages, or it gets through to the server. -/
lemma handle_cases {s : Server} (hs : S.Follows s) (files : Files) (r : Request) :
    S.Follows ((s.interrupt S.outages).handle files r).2 ∧
      ((¬S.Steady ∧ S.Dropped s ((s.interrupt S.outages).handle files r).2 ∧
          ∃ e, ((s.interrupt S.outages).handle files r).1 = .error e) ∨
        ∃ t : Server, t.databases = s.databases ∧ t.hashes = s.hashes ∧
          (s.interrupt S.outages).handle files r = t.respond files r ∧
          S.forged (t.respond files r).2 = S.forged s ++ r.forged) := by
  have hforged := S.forged_handle hs files r
  refine ⟨hs.handle files r, ?_⟩
  by_cases hzero : (s.interrupt S.outages).pendingFailures = 0
  · have hthrough := handle_of_calm hzero files r
    rw [if_pos hzero] at hforged
    refine Or.inr ⟨_, ?_, ?_, hthrough, ?_⟩
    · exact databases_interrupt ..
    · exact hashes_interrupt ..
    · rw [← hthrough, hforged]
  · have hdropped := handle_of_pending hzero files r
    rw [if_neg hzero, List.append_nil] at hforged
    refine Or.inl ⟨?_, ⟨?_, ?_, hforged⟩, ?_⟩
    · intro hsteady
      rw [pendingFailures_interrupt, hs.pending, hsteady.stillPending_eq, hsteady.outages] at hzero
      exact hzero rfl
    · rw [hdropped]
      exact databases_interrupt ..
    · rw [hdropped]
      exact hashes_interrupt ..
    · rw [hdropped]
      exact ⟨_, rfl⟩

/-- What is made up stays made up. -/
lemma forged_sublist {s t : Server} {r : Request} (h : t.requests = s.requests.push r) :
    (S.forged s).Sublist (S.forged t) := by
  have hlog : S.log s <+: S.log t := by
    unfold log
    rw [h, Array.toList_push, List.drop_append]
    exact List.prefix_append ..
  obtain ⟨rest, hrest⟩ :=
    passed_prefix S.outages S.start.requests.size S.start.pendingFailures hlog
  unfold forged
  rw [← hrest, List.flatMap_append]
  exact List.sublist_append_left ..

/-! ### A discipline for programs that share a server -/

variable {γ : Type}

/-- What programs agree on says something about the databases, the number of hashes, the revisions
that were made up, and the shares. -/
def discipline (State : Table Database → Nat → List String → (Nat → γ) → Prop) :
    Discipline (World Server) γ where
  perform := (unsteady S.outages).perform
  Holds w G := S.Follows w.server ∧
    State w.server.databases w.server.hashes (S.forged w.server) G
  Within w := S.Bounded w.server
  within_of_perform action w h := by
    cases action with
    | send r =>
      refine ⟨Nat.lt_of_le_of_lt ?_ h.hashes, fun hdistinct => (h.nodup hdistinct).sublist ?_⟩
      · have := hashes_le_handle (w.server.interrupt S.outages) w.files r
        rwa [hashes_interrupt] at this
      · apply S.forged_sublist (r := r)
        show ((w.server.interrupt S.outages).handle w.files r).2.requests = _
        rw [requests_handle, requests_interrupt]
    | reconnect => exact ⟨h.hashes, h.nodup⟩
    | note event =>
      have heq := w.server_note event
      rw [← heq]
      exact h
    | readFile path => exact h
    | clock => exact h

variable {State : Table Database → Nat → List String → (Nat → γ) → Prop}

/-- Nothing but a request changes what programs agree on. -/
lemma calm_discipline : (S.discipline State).Calm := by
  intro action hne w G hw
  cases action with
  | send r => exact absurd rfl (hne r)
  | reconnect => exact ⟨⟨hw.1.size, hw.1.pending⟩, hw.2⟩
  | note event =>
    have heq := w.server_note event
    unfold discipline at hw ⊢
    simp only at hw ⊢
    rw [← heq] at hw
    exact hw
  | readFile path => exact hw
  | clock => exact hw

/-- To know what sending a request does it is enough to know what responding to it does. -/
lemma sends_of_respond {place : Nat} {r : Request} {faulty : Prop} {g : γ}
    {effect : Response → γ → Prop} (hfaulty : ¬S.Steady → faulty)
    (h : ∀ (s : Server) files forged G, State s.databases s.hashes forged G → G place = g →
      (s.respond files r).2.hashes < 2 ^ 64 → (S.distinct → (forged ++ r.forged).Nodup) →
        ∃ g', State (s.respond files r).2.databases (s.respond files r).2.hashes
            (forged ++ r.forged) (Function.update G place g') ∧
          ((∃ e, (s.respond files r).1 = .error e ∧ faulty ∧ g' = g) ∨
            ∃ response, (s.respond files r).1 = .ok response ∧ effect response g')) :
    (S.discipline State).Sends place r faulty g effect := by
  intro w G hw hg hin
  obtain ⟨hfollows, hcases⟩ := S.handle_cases hw.1 w.files r
  rcases hcases with ⟨hsteady, hdropped, e, he⟩ | ⟨s, hdatabases, hhashes, heq, hforged⟩
  · refine Or.inl ⟨e, he, hfaulty hsteady, hfollows, ?_⟩
    have hstate := hw.2
    rw [← hdropped.databases, ← hdropped.hashes, ← hdropped.forged] at hstate
    exact hstate
  · have hin' : S.Bounded (s.respond w.files r).2 := by
      rw [← heq]
      exact hin
    have hstate := hw.2
    rw [← hdatabases, ← hhashes] at hstate
    obtain ⟨g', hstate', hout⟩ := h s w.files _ G hstate hg hin'.hashes
      (by rw [← hforged]; exact hin'.nodup)
    rw [← hforged, ← heq] at hstate'
    rw [← heq] at hout
    rcases hout with ⟨e, he, hf, rfl⟩ | ⟨response, hresponse, heffect⟩
    · rw [← hg, Function.update_eq_self] at hstate'
      exact Or.inl ⟨e, he, hf, hfollows, hstate'⟩
    · exact Or.inr ⟨response, g', hresponse, heffect, hfollows, hstate'⟩

end Premise

end CouchLoad
