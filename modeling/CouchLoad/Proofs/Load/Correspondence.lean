import CouchLoad.Load.Run
import Mathlib.Data.List.Forall2

/-!
# Runs that correspond to each other

What carries a run out decides how connections look and what is kept beside the run. Where it does
the single things in ways that correspond to each other, the whole runs correspond: the same is done
in the same order, and comes to the same summary.
-/

namespace CouchLoad

variable {m m' : Type → Type} [Monad m] [Monad m'] {α α' β β' κ κ' σ : Type}

/-- When what is done in one way corresponds to what is done in another, given which values
correspond to each other. Going on from values that correspond keeps this. -/
structure Correspondence (m m' : Type → Type) [Monad m] [Monad m'] where
  Rel : {α β : Type} → (α → β → Prop) → m α → m' β → Prop
  pure : ∀ {α β : Type} {R : α → β → Prop} {a : α} {b : β}, R a b → Rel R (pure a) (pure b)
  bind : ∀ {α β α' β' : Type} {R : α → β → Prop} {S : α' → β' → Prop} {x : m α} {y : m' β}
    {f : α → m α'} {g : β → m' β'}, Rel R x y → (∀ a b, R a b → Rel S (f a) (g b)) →
      Rel S (x >>= f) (y >>= g)

/-- What is kept beside a state, left out. -/
def Correspondence.forgetting (ρ τ : Type) : Correspondence (StateT ρ (StateM τ)) (StateM τ) where
  Rel R x y := ∀ r s, R ((x.run r).run s).1.1 (y.run s).1 ∧ ((x.run r).run s).2 = (y.run s).2
  pure h _ _ := ⟨h, rfl⟩
  bind {_ _ _ _ _ S x y f g} h hf r s := by
    obtain ⟨hvalue, hstate⟩ := h r s
    have hrest := hf _ _ hvalue ((x.run r).run s).1.2 ((x.run r).run s).2
    have hleft : ((x >>= f).run r).run s = ((f ((x.run r).run s).1.1).run
        ((x.run r).run s).1.2).run ((x.run r).run s).2 := rfl
    have hright : (y >>= g).run s = (g (y.run s).1).run (y.run s).2 := rfl
    rw [hleft, hright, ← hstate]
    exact hrest

/-- Outcomes that fail alike, or come to values that correspond. -/
inductive Alike {ε : Type} (R : α → β → Prop) : Except ε α → Except ε β → Prop where
  | error (e : ε) : Alike R (.error e) (.error e)
  | ok {a : α} {b : β} (h : R a b) : Alike R (.ok a) (.ok b)

/-- The same programs, over connections that correspond. -/
def Pool.Paired (K : κ → κ' → Prop) : Pool κ σ α → Pool κ' σ α → Prop :=
  List.Forall₂ fun entry entry' => K entry.1 entry'.1 ∧ entry.2 = entry'.2

/-- At each place there is the same program, or none, and it goes on in both pools alike. -/
lemma Pool.Paired.at {K : κ → κ' → Prop} {pool : Pool κ σ α} {pool' : Pool κ' σ α}
    (h : Paired K pool pool') (place : Nat) :
    (pool[place]? = none ∧ pool'[place]? = none) ∨
      ∃ k k' p, K k k' ∧ pool[place]? = some (k, p) ∧ pool'[place]? = some (k', p) ∧
        ∀ p', Paired K (pool.set place (k, p')) (pool'.set place (k', p')) := by
  induction h generalizing place with
  | nil => exact .inl ⟨rfl, rfl⟩
  | @cons entry entry' pool pool' hentry hpool ih =>
    obtain ⟨k, p⟩ := entry
    obtain ⟨k', p'⟩ := entry'
    obtain ⟨hk, rfl⟩ := hentry
    cases place with
    | zero => exact .inr ⟨k, k', p, hk, rfl, rfl, fun q => .cons ⟨hk, rfl⟩ hpool⟩
    | succ place =>
      rcases ih place with hnone | ⟨l, l', q, hl, hq, hq', hset⟩
      · exact .inl hnone
      · exact .inr ⟨l, l', q, hl, hq, hq', fun q' => .cons ⟨hk, rfl⟩ (hset q')⟩

namespace Correspondence

variable (C : Correspondence m m')

/-- Values that are the same need not be told apart. -/
lemma bind_eq {S : α' → β' → Prop} {x : m α} {y : m' α} {f : α → m α'} {g : α → m' β'}
    (h : C.Rel Eq x y) (hf : ∀ a, C.Rel S (f a) (g a)) : C.Rel S (x >>= f) (y >>= g) := by
  refine C.bind h ?_
  rintro a _ rfl
  exact hf a

/-- A connection that is opened beside what is kept is the connection that is opened without it. -/
lemma forgetting_open {ρ τ ε : Type} {x : StateM τ (Except ε Unit)}
    {f : Except ε Unit → StateT ρ (StateM τ) (Except ε κ)}
    (herror : ∀ e, f (.error e) = Pure.pure (.error e))
    (hok : ∀ r s, ∃ k r', ((f (.ok ())).run r).run s = ((.ok k, r'), s)) :
    (forgetting ρ τ).Rel (Alike fun _ _ => True) (liftM x >>= f) x := by
  rw [← bind_pure x]
  refine (forgetting ρ τ).bind_eq (x := liftM x) (fun _ _ => ⟨rfl, rfl⟩) fun answer => ?_
  cases answer with
  | error e => exact herror e ▸ fun _ _ => ⟨.error e, rfl⟩
  | ok _ =>
    intro r s
    obtain ⟨k, r', hrun⟩ := hok r s
    rw [hrun]
    exact ⟨.ok trivial, rfl⟩

/-! ### Programs -/

lemma rel_run {perform : (action : Action) → m action.Answer}
    {perform' : (action : Action) → m' action.Answer}
    (h : ∀ action, C.Rel Eq (perform action) (perform' action)) (p : Program σ α) :
    C.Rel Eq (p.run perform) (p.run perform') := by
  induction p with
  | done value => exact C.pure rfl
  | ask state action resume ih => exact C.bind_eq (h action) ih

section Pool

variable {K : κ → κ' → Prop} {perform : κ → (action : Action) → m action.Answer}
  {perform' : κ' → (action : Action) → m' action.Answer} {pool : Pool κ σ α} {pool' : Pool κ' σ α}

lemma rel_turn (h : ∀ k k', K k k' → ∀ action, C.Rel Eq (perform k action) (perform' k' action))
    (hpool : Pool.Paired K pool pool') (place : Nat) :
    C.Rel (Pool.Paired K) (pool.turn perform place) (pool'.turn perform' place) := by
  unfold Pool.turn
  rcases hpool.at place with ⟨hnone, hnone'⟩ | ⟨k, k', p, hk, hp, hp', hset⟩
  · rw [hnone, hnone']
    exact C.pure hpool
  · rw [hp, hp']
    have hstep : C.Rel Eq (p.step (perform k)) (p.step (perform' k')) := by
      cases p with
      | done value => exact C.pure rfl
      | ask state action resume => exact C.bind_eq (h k k' hk action) fun answer => C.pure rfl
    exact C.bind_eq hstep fun p' => C.pure (hset p')

lemma rel_advance
    (h : ∀ k k', K k k' → ∀ action, C.Rel Eq (perform k action) (perform' k' action))
    (hpool : Pool.Paired K pool pool') (schedule : List Nat) :
    C.Rel (Pool.Paired K) (pool.advance perform schedule) (pool'.advance perform' schedule) := by
  induction schedule generalizing pool pool' with
  | nil => exact C.pure hpool
  | cons place schedule ih => exact C.bind (C.rel_turn h hpool place) fun _ _ => ih

lemma rel_finish
    (h : ∀ k k', K k k' → ∀ action, C.Rel Eq (perform k action) (perform' k' action))
    (hpool : Pool.Paired K pool pool') :
    C.Rel Eq (pool.finish perform) (pool'.finish perform') := by
  induction hpool with
  | nil => exact C.pure rfl
  | @cons entry entry' pool pool' hentry hpool ih =>
    obtain ⟨hconnection, hprogram⟩ := hentry
    unfold Pool.finish
    rw [hprogram]
    refine C.bind_eq (C.rel_run (h _ _ hconnection) entry'.2) fun value => ?_
    exact C.bind_eq ih fun values => C.pure rfl

/-- Programs side by side do the same where they take turns in the same order. -/
theorem rel_pool
    (h : ∀ k k', K k k' → ∀ action, C.Rel Eq (perform k action) (perform' k' action))
    (hpool : Pool.Paired K pool pool') (schedule : List Nat) :
    C.Rel Eq (pool.run perform schedule) (pool'.run perform' schedule) :=
  C.bind (C.rel_advance h hpool schedule) fun _ _ => C.rel_finish h

end Pool

end Correspondence

/-! ### Runs -/

/-- What carries runs out in ways that correspond to each other, over connections that do. -/
structure Host.Matches (C : Correspondence m m') (K : κ → κ' → Prop) (host : Host κ m)
    (host' : Host κ' m') : Prop where
  connect : C.Rel (Alike K) host.connect host'.connect
  perform : ∀ k k', K k k' → ∀ action, C.Rel Eq (host.perform k action) (host'.perform k' action)
  newSource : C.Rel Eq host.newSource host'.newSource
  together : ∀ pool pool', Pool.Paired K pool pool' →
    C.Rel Eq (host.together pool) (host'.together pool')

namespace Host.Matches

variable {C : Correspondence m m'} {K : κ → κ' → Prop} {host : Host κ m} {host' : Host κ' m'}
  {k : κ} {k' : κ'}

lemma session (h : host.Matches C K host') (hk : K k k') (s : Session Unit α) :
    C.Rel Eq (host.session k s) (host'.session k' s) :=
  C.bind_eq (C.rel_run (h.perform k k' hk) _) fun _ => C.pure rfl

lemma hire (h : host.Matches C K host') (workers : List Worker) :
    C.Rel (Alike (Pool.Paired K)) (Run.hire host workers) (Run.hire host' workers) := by
  induction workers with
  | nil => exact C.pure (.ok .nil)
  | cons w ws ih =>
    refine C.bind h.connect ?_
    rintro _ _ (e | hconnection)
    · exact C.pure (.error e)
    · refine C.bind_eq h.newSource fun source => C.bind ih ?_
      rintro _ _ (e | hpool)
      · exact C.pure (.error e)
      · exact C.pure (.ok (.cons ⟨hconnection, rfl⟩ hpool))

lemma fill (h : host.Matches C K host') (hk : K k k') (c : Config) (db : String) :
    C.Rel Eq (Run.fill host c k db) (Run.fill host' c k' db) := by
  refine C.bind_eq (h.session hk _) fun _ => C.bind (h.hire _) ?_
  rintro _ _ (e | hpool)
  · exact C.pure rfl
  · refine C.bind_eq (h.together _ _ hpool) fun reports => ?_
    refine C.bind_eq (h.session hk _) fun _ => C.bind_eq (h.session hk _) fun _ => ?_
    exact C.pure rfl

lemma populate (h : host.Matches C K host') (hk : K k k') (c : Config) (db : String) :
    C.Rel Eq (Run.populate host c k db) (Run.populate host' c k' db) := by
  refine C.bind_eq (h.session hk _) fun started => C.bind_eq (h.session hk _) fun _ => ?_
  refine C.bind_eq (h.session hk _) fun created => ?_
  cases created with
  | false => exact C.pure rfl
  | true =>
    refine C.bind_eq (h.fill hk c db) fun filled => ?_
    cases filled with
    | error e => exact C.pure rfl
    | ok reports =>
      refine C.bind_eq (h.session hk _) fun ended => C.bind_eq (h.session hk _) fun _ => ?_
      exact C.pure rfl

lemma populateAll (h : host.Matches C K host') (hk : K k k') (c : Config) (done : Summary)
    (dbs : List String) :
    C.Rel Eq (Run.populateAll host c k done dbs) (Run.populateAll host' c k' done dbs) := by
  induction dbs generalizing done with
  | nil => exact C.pure rfl
  | cons db dbs ih =>
    refine C.bind_eq (h.populate hk c db) fun populated => ?_
    match populated with
    | .error e => exact C.pure rfl
    | .ok none => exact ih done
    | .ok (some (summary, reports)) => exact ih _

/-- Runs that are carried out in ways that correspond come to the same. -/
theorem execute (h : host.Matches C K host') (c : Config) :
    C.Rel Eq (Run.execute host c) (Run.execute host' c) := by
  refine C.bind h.connect ?_
  rintro _ _ (e | hconnection)
  · exact C.pure rfl
  · exact h.populateAll hconnection c _ _

end Host.Matches

end CouchLoad
