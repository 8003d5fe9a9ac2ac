import CouchLoad.Program.Pool
import Mathlib.Logic.Function.Basic
import Mathlib.Tactic.Common

/-!
# Programs that share their surroundings

Programs side by side change the same surroundings, and each may find them changed at any of its
actions. To reason about one program at a time, every place of the pool gets a share: a value that
says what its program has contributed. A discipline says what holds of the surroundings and all
shares between any two actions. A program is safe if it keeps to the discipline with every action,
whatever the shares of the others are, and changes no share but its own.

A pool of safe programs keeps to the discipline under every schedule.
-/

namespace CouchLoad

/-- What programs side by side agree on. -/
structure Discipline (W γ : Type) where
  /-- What an action does to the surroundings. -/
  perform : (action : Action) → StateM W action.Answer
  /-- What holds of the surroundings and of the shares of all places. -/
  Holds : W → (Nat → γ) → Prop
  /-- The bounds that the surroundings have to stay in for all this. -/
  Within : W → Prop
  within_of_perform : ∀ action w, Within ((perform action).run w).2 → Within w

variable {W γ σ α β : Type} {d : Discipline W γ} {look : γ → σ → Prop}

/-- A program at a place keeps to a discipline: it shows states that agree with its share, and it
ends with a value and a share as promised. -/
def Program.Safe (d : Discipline W γ) (look : γ → σ → Prop) (post : γ → α → Prop) (place : Nat) :
    γ → Program σ α → Prop
  | g, .done value => post g value
  | g, .ask state action resume =>
    look g state ∧ ∀ w G, d.Holds w G → G place = g →
      d.Within ((d.perform action).run w).2 →
        ∃ g', d.Holds ((d.perform action).run w).2 (Function.update G place g') ∧
          Safe d look post place g' (resume ((d.perform action).run w).1)

namespace Program

variable {post : γ → α → Prop} {place : Nat}

/-- A program that is safe may promise less, and its states may have to agree less. -/
lemma Safe.mono {look' : γ → σ → Prop} {post' : γ → α → Prop} {g : γ} {p : Program σ α}
    (h : p.Safe d look post place g) (hlook : ∀ g state, look g state → look' g state)
    (hpost : ∀ g value, post g value → post' g value) : p.Safe d look' post' place g := by
  induction p generalizing g with
  | done value => exact hpost g value h
  | ask state action resume ih =>
    refine ⟨hlook g state h.1, fun w G hw hg hin => ?_⟩
    obtain ⟨g', hw', hs⟩ := h.2 w G hw hg hin
    exact ⟨g', hw', ih _ hs⟩

/-- Two safe programs are safe one after the other. -/
lemma Safe.bind {post' : γ → β → Prop} {g : γ} {p : Program σ α} {f : α → Program σ β}
    (h : p.Safe d look (fun g value => (f value).Safe d look post' place g) place g) :
    (p >>= f).Safe d look post' place g := by
  induction p generalizing g with
  | done value => exact h
  | ask state action resume ih =>
    refine ⟨h.1, fun w G hw hg hin => ?_⟩
    obtain ⟨g', hw', hs⟩ := h.2 w G hw hg hin
    exact ⟨g', hw', ih _ hs⟩

/-- What a program has done is within the bounds if all of it is. -/
lemma within_of_run (p : Program σ α) {w : W} (h : d.Within ((p.run d.perform).run w).2) :
    d.Within w := by
  induction p generalizing w with
  | done value => exact h
  | ask state action resume ih => exact d.within_of_perform action w (ih _ h)

/-- A safe program that is carried out without interruption keeps to the discipline. -/
lemma Safe.run {g : γ} {p : Program σ α} (h : p.Safe d look post place g) {w : W} {G : Nat → γ}
    (hw : d.Holds w G) (hg : G place = g) (hin : d.Within ((p.run d.perform).run w).2) :
    ∃ g', d.Holds ((p.run d.perform).run w).2 (Function.update G place g') ∧
      post g' ((p.run d.perform).run w).1 := by
  induction p generalizing g w G with
  | done value =>
    refine ⟨g, ?_, h⟩
    rw [← hg, Function.update_eq_self]
    exact hw
  | ask state action resume ih =>
    obtain ⟨g₁, hw₁, hs⟩ := h.2 w G hw hg (within_of_run _ hin)
    obtain ⟨g₂, hw₂, hpost⟩ := ih _ hs hw₁ (Function.update_self ..) hin
    rw [Function.update_idem] at hw₂
    exact ⟨g₂, hw₂, hpost⟩

end Program

namespace Pool

variable {post : Nat → γ → α → Prop}

/-- All programs of a pool are safe at their places, the first of which is `start`. -/
def Safe (d : Discipline W γ) (look : γ → σ → Prop) (post : Nat → γ → α → Prop) (start : Nat)
    (G : Nat → γ) (pool : Pool Unit σ α) : Prop :=
  ∀ i (p : Program σ α), pool[i]? = some ((), p) →
    p.Safe d look (post (start + i)) (start + i) (G (start + i))

lemma within_of_turn (pool : Pool Unit σ α) (place : Nat) {w : W}
    (h : d.Within ((pool.turn (fun _ => d.perform) place).run w).2) : d.Within w := by
  unfold Pool.turn at h
  split at h
  · exact h
  · rename_i p _
    cases p with
    | done value => exact h
    | ask state action resume => exact d.within_of_perform action w h

lemma within_of_advance (pool : Pool Unit σ α) (schedule : List Nat) {w : W}
    (h : d.Within ((pool.advance (fun _ => d.perform) schedule).run w).2) : d.Within w := by
  induction schedule generalizing pool w with
  | nil => exact h
  | cons place schedule ih => exact within_of_turn pool place (ih _ h)

lemma within_of_finish (pool : Pool Unit σ α) {w : W}
    (h : d.Within ((pool.finish fun _ => d.perform).run w).2) : d.Within w := by
  induction pool generalizing w with
  | nil => exact h
  | cons entry pool ih => exact Program.within_of_run _ (ih h)

/-- A pool stays safe if one program goes on and only its share changes. -/
lemma Safe.set {pool : Pool Unit σ α} {G : Nat → γ} (h : Safe d look post 0 G pool)
    {place : Nat} {g : γ} {p : Program σ α} (hp : p.Safe d look (post place) place g) :
    Safe d look post 0 (Function.update G place g) (pool.set place ((), p)) := by
  intro i q hi
  rw [Nat.zero_add]
  rw [List.getElem?_set] at hi
  by_cases heq : place = i
  · subst heq
    have hq : p = q := by
      by_cases hlt : place < pool.length <;> simp_all
    rw [← hq, Function.update_self]
    exact hp
  · rw [if_neg heq] at hi
    rw [Function.update_of_ne (Ne.symm heq), ← Nat.zero_add i]
    exact h i q hi

/-- One turn keeps to the discipline and leaves safe programs. -/
lemma Safe.turn {pool : Pool Unit σ α} {w : W} {G : Nat → γ} (h : Safe d look post 0 G pool)
    (hw : d.Holds w G) (place : Nat)
    (hin : d.Within ((pool.turn (fun _ => d.perform) place).run w).2) :
    ∃ G', d.Holds ((pool.turn (fun _ => d.perform) place).run w).2 G' ∧
      Safe d look post 0 G' ((pool.turn (fun _ => d.perform) place).run w).1 ∧
      ((pool.turn (fun _ => d.perform) place).run w).1.length = pool.length := by
  unfold Pool.turn at hin ⊢
  split at hin
  · exact ⟨G, hw, h, rfl⟩
  · rename_i p hp
    have hsafe := h place p hp
    rw [Nat.zero_add] at hsafe
    cases p with
    | done value =>
      have h' := h.set hsafe
      rw [Function.update_eq_self] at h'
      exact ⟨G, hw, h', List.length_set⟩
    | ask state action resume =>
      obtain ⟨g', hw', hs⟩ := hsafe.2 w G hw rfl hin
      exact ⟨_, hw', h.set hs, List.length_set⟩

/-- Under every schedule a pool of safe programs keeps to the discipline. -/
theorem Safe.advance {pool : Pool Unit σ α} {w : W} {G : Nat → γ}
    (h : Safe d look post 0 G pool) (hw : d.Holds w G) (schedule : List Nat)
    (hin : d.Within ((pool.advance (fun _ => d.perform) schedule).run w).2) :
    ∃ G', d.Holds ((pool.advance (fun _ => d.perform) schedule).run w).2 G' ∧
      Safe d look post 0 G' ((pool.advance (fun _ => d.perform) schedule).run w).1 ∧
      ((pool.advance (fun _ => d.perform) schedule).run w).1.length = pool.length := by
  induction schedule generalizing pool w G with
  | nil => exact ⟨G, hw, h, rfl⟩
  | cons place schedule ih =>
    obtain ⟨G₁, hw₁, h₁, hlen₁⟩ := h.turn hw place (within_of_advance _ schedule hin)
    obtain ⟨G₂, hw₂, h₂, hlen₂⟩ := ih h₁ hw₁ hin
    exact ⟨G₂, hw₂, h₂, hlen₂.trans hlen₁⟩

/-- Programs that finish one after the other end as they have promised. -/
lemma Safe.finish {pool : Pool Unit σ α} {start : Nat} {w : W} {G : Nat → γ}
    (h : Safe d look post start G pool) (hw : d.Holds w G)
    (hin : d.Within ((pool.finish fun _ => d.perform).run w).2) :
    ∃ G', d.Holds ((pool.finish fun _ => d.perform).run w).2 G' ∧
      (∀ i, i < start → G' i = G i) ∧
      ((pool.finish fun _ => d.perform).run w).1.length = pool.length ∧
      ∀ i value, ((pool.finish fun _ => d.perform).run w).1[i]? = some value →
        post (start + i) (G' (start + i)) value := by
  induction pool generalizing start w G with
  | nil => exact ⟨G, hw, fun _ _ => rfl, rfl, fun i value hi => by cases hi⟩
  | cons entry pool ih =>
    have hp : entry.2.Safe d look (post start) start (G start) := h 0 entry.2 rfl
    obtain ⟨g', hw₁, hpost⟩ := hp.run hw rfl (within_of_finish pool hin)
    have hrest : Safe d look post (start + 1) (Function.update G start g') pool := by
      intro i p hi
      rw [Function.update_of_ne (by omega), Nat.add_assoc, Nat.add_comm 1 i]
      exact h (i + 1) p hi
    obtain ⟨G', hw₂, hkeep, hlen, hvalues⟩ := ih hrest hw₁ hin
    refine ⟨G', hw₂, ?_, congrArg Nat.succ hlen, ?_⟩
    · intro i hi
      rw [hkeep i (by omega), Function.update_of_ne (by omega)]
    · intro i value hi
      cases i with
      | zero =>
        cases hi
        rw [Nat.add_zero, hkeep start (by omega), Function.update_self]
        exact hpost
      | succ i =>
        have := hvalues i value hi
        rwa [Nat.add_assoc, Nat.add_comm 1 i] at this

/-- A pool of safe programs keeps to the discipline under every schedule, and every program ends
as it has promised. -/
theorem Safe.run {pool : Pool Unit σ α} {w : W} {G : Nat → γ} (h : Safe d look post 0 G pool)
    (hw : d.Holds w G) (schedule : List Nat)
    (hin : d.Within ((pool.run (fun _ => d.perform) schedule).run w).2) :
    ∃ G', d.Holds ((pool.run (fun _ => d.perform) schedule).run w).2 G' ∧
      ((pool.run (fun _ => d.perform) schedule).run w).1.length = pool.length ∧
      ∀ i value, ((pool.run (fun _ => d.perform) schedule).run w).1[i]? = some value →
        post i (G' i) value := by
  obtain ⟨G₁, hw₁, h₁, hlen₁⟩ := h.advance hw schedule (within_of_finish _ hin)
  obtain ⟨G₂, hw₂, -, hlen₂, hvalues⟩ := h₁.finish hw₁ hin
  refine ⟨G₂, hw₂, hlen₂.trans hlen₁, ?_⟩
  intro i value hi
  have := hvalues i value hi
  rwa [Nat.zero_add] at this

end Pool

end CouchLoad
