import CouchLoad.Proofs.Program.Sessions
import CouchLoad.Simulation.World

/-!
# Sessions over backends

What a session does over a backend, one rule for each kind of step. Of these steps only requests
matter to a server: so backends that are alike in what they make of requests are alike in what they
make of whole sessions.
-/

namespace CouchLoad

namespace World

variable {ω : Type}

/-- Taking note of an event leaves the server alone. -/
lemma server_note (w : World ω) (e : Event) : (w.note e).server = w.server := by
  unfold note
  split <;> rfl

lemma files_note (w : World ω) (e : Event) : (w.note e).files = w.files := by
  unfold note
  split <;> rfl

end World

namespace Session

variable {ω ω' σ α β : Type} {b : Backend ω} {b' : Backend ω'}

/-- Carried out over a backend, a session ends with a value, a link and a world as said. -/
def Reaches (b : Backend ω) (s : Session σ α) (post : α → Link σ → World ω → Prop) (link : Link σ)
    (w : World ω) : Prop :=
  let out := (b.session link s).run w
  post out.1.1 out.1.2 out.2

variable {link : Link σ} {w : World ω} {post : α → Link σ → World ω → Prop}

lemma Reaches.mono {s : Session σ α} {post' : α → Link σ → World ω → Prop}
    (h : s.Reaches b post link w)
    (hpost : ∀ value link w, post value link w → post' value link w) :
    s.Reaches b post' link w :=
  hpost _ _ _ h

lemma reaches_pure {value : α} (h : post value link w) :
    (pure value : Session σ α).Reaches b post link w := h

lemma reaches_bind {s : Session σ α} {f : α → Session σ β} {post : β → Link σ → World ω → Prop}
    (h : s.Reaches b (fun value link w => (f value).Reaches b post link w) link w) :
    (s >>= f).Reaches b post link w := by
  have hrun : (b.session link (s >>= f)).run w =
      (b.session ((b.session link s).run w).1.2 (f ((b.session link s).run w).1.1)).run
        ((b.session link s).run w).2 :=
    congrFun (Program.run_bind b.perform (s.run link) _) w
  unfold Reaches
  rw [hrun]
  exact h

lemma reaches_owner {post : σ → Link σ → World ω → Prop} (h : post link.owner link w) :
    owner.Reaches b post link w := h

lemma reaches_update {f : σ → σ} {post : Unit → Link σ → World ω → Prop}
    (h : post () { link with owner := f link.owner } w) : (update f).Reaches b post link w := h

lemma reaches_ask_send {r : Request}
    {post : Except TransportError Response → Link σ → World ω → Prop}
    (h : post ((b.send r).run w).1 link ((b.send r).run w).2) :
    (ask (.send r)).Reaches b post link w := h

lemma reaches_ask_reconnect {post : Except TransportError Unit → Link σ → World ω → Prop}
    (h : post (b.reconnect.run w).1 link (b.reconnect.run w).2) :
    (ask .reconnect).Reaches b post link w := h

lemma reaches_note {level : Level} {component : Component} {message : String}
    {post : Unit → Link σ → World ω → Prop}
    (h : post () link (w.note ⟨level, component, message⟩)) :
    (note level component message).Reaches b post link w := h

/-- The event that tells of a second attempt. -/
def retryEvent (r : Request) (e : TransportError) : Event :=
  ⟨.warn, .store, s!"{r.describe} failed ({e.message}); reconnecting"⟩

/-- A request is sent, and where a new connection may help and can be had, it is sent once more. -/
lemma reaches_send {r : Request} {post : Except TransportError Response → Link σ → World ω → Prop}
    (hanswer : ∀ answer, ((b.send r).run w).1 = answer →
      (∀ e, answer = .error e → e.isRetryable = false) → post answer link ((b.send r).run w).2)
    (hretry : ∀ e, ((b.send r).run w).1 = .error e → e.isRetryable = true →
      let again := b.reconnect.run (((b.send r).run w).2.note (retryEvent r e))
      match again.1 with
      | .error e => post (.error e) link again.2
      | .ok _ => post ((b.send r).run again.2).1 { link with reconnects := link.reconnects + 1 }
          ((b.send r).run again.2).2) :
    (send r).Reaches b post link w := by
  refine reaches_bind (reaches_ask_send ?_)
  generalize ((b.send r).run w).1 = first at hanswer hretry
  cases first with
  | ok response => exact reaches_pure (hanswer _ rfl (by simp))
  | error e =>
    simp only
    by_cases he : e.isRetryable = true
    · rw [if_pos he]
      have hagain := hretry e rfl he
      unfold retryEvent at hagain
      refine reaches_bind (reaches_note (reaches_bind (reaches_ask_reconnect ?_)))
      generalize b.reconnect.run (World.note _ _) = again at hagain ⊢
      obtain ⟨e' | ⟨⟩, w'⟩ := again
      · exact reaches_pure hagain
      · exact reaches_bind (reaches_ask_send hagain)
    · rw [if_neg he]
      exact reaches_pure (hanswer _ rfl fun e' he' => by cases he'; simpa using he)

/-! ### Servers that sessions lead to -/

/-- In every world with given files, a session over a backend ends with a value, a server and a link
as said. -/
def Leads (b : Backend ω) (files : Files) (s : Session σ α) (post : α → ω → Link σ → Prop)
    (server : ω) (link : Link σ) : Prop :=
  ∀ w : World ω, w.server = server → w.files = files →
    s.Reaches b (fun value link w => w.files = files ∧ post value w.server link) link w

section Leads

variable {files : Files} {server : ω} {post : α → ω → Link σ → Prop}

lemma Leads.mono {s : Session σ α} {post' : α → ω → Link σ → Prop}
    (h : s.Leads b files post server link)
    (hpost : ∀ value server link, post value server link → post' value server link) :
    s.Leads b files post' server link := fun w hserver hfiles =>
  (h w hserver hfiles).mono fun value link w h => ⟨h.1, hpost value w.server link h.2⟩

lemma leads_pure {value : α} (h : post value server link) :
    (pure value : Session σ α).Leads b files post server link := by
  rintro w rfl hfiles
  exact reaches_pure ⟨hfiles, h⟩

lemma leads_bind {s : Session σ α} {f : α → Session σ β} {post : β → ω → Link σ → Prop}
    (h : s.Leads b files (fun value => (f value).Leads b files post) server link) :
    (s >>= f).Leads b files post server link := fun w hserver hfiles =>
  reaches_bind ((h w hserver hfiles).mono fun _ _ w hrest => hrest.2 w rfl hrest.1)

lemma leads_owner {post : σ → ω → Link σ → Prop} (h : post link.owner server link) :
    owner.Leads b files post server link := by
  rintro w rfl hfiles
  exact reaches_owner ⟨hfiles, h⟩

lemma leads_update {f : σ → σ} {post : Unit → ω → Link σ → Prop}
    (h : post () server { link with owner := f link.owner }) :
    (update f).Leads b files post server link := by
  rintro w rfl hfiles
  exact reaches_update ⟨hfiles, h⟩

lemma leads_ask {action : Action} {post : action.Answer → ω → Link σ → Prop}
    (hlocal : action.IsLocal) (h : ∀ answer, post answer server link) :
    (ask action).Leads b files post server link := by
  rintro w rfl hfiles
  cases action with
  | send | reconnect => exact hlocal.elim
  | readFile path => exact ⟨hfiles, h (w.files path)⟩
  | clock => exact ⟨hfiles, h (0 : Nat)⟩
  | note event =>
    show (w.note event).files = files ∧ post () (w.note event).server link
    rw [w.files_note, w.server_note]
    exact ⟨hfiles, h ()⟩

/-- What sessions do over a backend is a logic, in which nobody looks. -/
lemma leads_logic (b : Backend ω) (files : Files) :
    Logic (Leads b files (σ := σ)) fun _ _ => True where
  holds_mono := Leads.mono
  holds_pure := leads_pure
  holds_bind := leads_bind
  holds_owner := leads_owner
  holds_update := leads_update
  holds_ask hlocal _ := leads_ask hlocal

end Leads

/-! ### Backends that are alike -/

/-- Two backends keep a relation between links and worlds, step by step. -/
structure Mirrors (b : Backend ω) (b' : Backend ω')
    (R : Link σ → World ω → Link σ → World ω' → Prop) : Prop where
  owner : ∀ {link w link' w'}, R link w link' w' → link'.owner = link.owner
  files : ∀ {link w link' w'}, R link w link' w' → w'.files = w.files
  update : ∀ {link w link' w'} (o : σ), R link w link' w' →
    R { link with owner := o } w { link' with owner := o } w'
  note : ∀ {link w link' w'} (e : Event), R link w link' w' → R link (w.note e) link' (w'.note e)
  send : ∀ {link w link' w'} (r : Request), R link w link' w' →
    (send r).Reaches b (fun answer link w => (send r).Reaches b'
      (fun answer' link' w' => answer' = answer ∧ R link w link' w') link' w') link w

/-- Over two backends, from links and worlds that are related, a session ends with the same value
and with links and worlds that are related again, and the first of them are as said. -/
def Mirrored (b : Backend ω) (b' : Backend ω') (R : Link σ → World ω → Link σ → World ω' → Prop)
    (s : Session σ α) (post : α → Unit → Link σ → Prop) (_ : Unit) (link : Link σ) : Prop :=
  ∀ w link' w', R link w link' w' →
    s.Reaches b (fun value link w => s.Reaches b'
      (fun value' link' w' => value' = value ∧ R link w link' w' ∧ post value () link) link' w')
      link w

section Mirrored

variable {R : Link σ → World ω → Link σ → World ω' → Prop}

lemma mirrored_bind {s : Session σ α} {f : α → Session σ β} {post : β → Unit → Link σ → Prop}
    (h : s.Mirrored b b' R (fun value => (f value).Mirrored b b' R post) () link) :
    (s >>= f).Mirrored b b' R post () link := by
  refine fun w link' w' hlink => reaches_bind ((h w link' w' hlink).mono fun value link w hs => ?_)
  obtain ⟨hvalue, hmid, hrest⟩ := hs
  refine Reaches.mono (s := f value) (hrest _ _ _ hmid) fun result link w hresult => ?_
  rw [← hvalue] at hresult
  exact reaches_bind (s := s) hresult

/-- What two backends keep step by step makes a logic, in which nobody looks. -/
lemma mirrored_logic (hR : Mirrors b b' R) : Logic (Mirrored b b' R) fun _ _ => True where
  holds_mono h hpost w link' w' hlink := by
    obtain ⟨hvalue, hmid, hend⟩ := h w link' w' hlink
    exact ⟨hvalue, hmid, hpost _ _ _ hend⟩
  holds_pure h w link' w' hlink := ⟨rfl, hlink, h⟩
  holds_bind := mirrored_bind
  holds_owner h w link' w' hlink := ⟨hR.owner hlink, hlink, h⟩
  holds_update {f _ _ link} h w link' w' hlink := by
    refine ⟨rfl, ?_, h⟩
    show R { link with owner := f link.owner } w { link' with owner := f link'.owner } w'
    rw [hR.owner hlink]
    exact hR.update _ hlink
  holds_ask {action _ _ _} hlocal _ h w link' w' hlink := by
    cases action with
    | send | reconnect => exact hlocal.elim
    | readFile path => exact ⟨congrFun (hR.files hlink) path, hlink, h _⟩
    | clock => exact ⟨rfl, hlink, h _⟩
    | note event => exact ⟨rfl, hR.note event hlink, h _⟩

lemma mirrored_send (hR : Mirrors b b' R) (r : Request) :
    (send r).Mirrored b b' R (fun _ _ _ => True) () link := fun _ _ _ hlink =>
  (hR.send r hlink).mono fun _ _ _ h => h.mono fun _ _ _ h => ⟨h.1, h.2, trivial⟩

end Mirrored

end Session

end CouchLoad
