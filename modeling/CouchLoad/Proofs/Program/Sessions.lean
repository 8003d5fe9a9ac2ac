import CouchLoad.Proofs.Program.Interference
import CouchLoad.Proofs.Program.Logic

/-!
# Sessions that share their surroundings

One rule for each step that sessions are made of. Only requests touch what programs share, so every
other action leaves all shares as they are. A request is sent a second time only if its first
sending failed, and a failed sending has changed nothing: to know what an operation does it is
enough to know what one sending of its request does.
-/

namespace CouchLoad

variable {W γ σ α β : Type}

namespace Discipline

/-- An action that changes no share. -/
def Quiet (d : Discipline W γ) (action : Action) : Prop :=
  ∀ w G, d.Holds w G → d.Holds ((d.perform action).run w).2 G

/-- Only requests change shares. -/
def Calm (d : Discipline W γ) : Prop :=
  ∀ action, (∀ request, action ≠ .send request) → d.Quiet action

/-- What one sending of a request does: it fails without changing a share, which only happens if
`faulty` holds, or it is answered and the share of the sender changes as `effect` says. -/
def Sends (d : Discipline W γ) (place : Nat) (request : Request) (faulty : Prop) (g : γ)
    (effect : Response → γ → Prop) : Prop :=
  ∀ w G, d.Holds w G → G place = g → d.Within ((d.perform (.send request)).run w).2 →
    (∃ e : TransportError, ((d.perform (.send request)).run w).1 = Except.error e ∧ faulty ∧
      d.Holds ((d.perform (.send request)).run w).2 G) ∨
    ∃ response g', ((d.perform (.send request)).run w).1 = Except.ok response ∧
      effect response g' ∧
      d.Holds ((d.perform (.send request)).run w).2 (Function.update G place g')

end Discipline

namespace Session

variable (d : Discipline W γ) (look : γ → Link σ → Prop) (place : Nat)

/-- A session at a place is safe, and it ends with a value, a share and a link as promised. -/
def Safe (s : Session σ α) (post : α → γ → Link σ → Prop) (g : γ) (link : Link σ) : Prop :=
  (s.run link).Safe d look (fun g out => post out.1 g out.2) place g

variable {d look place} {g : γ} {link : Link σ} {post : α → γ → Link σ → Prop}

lemma Safe.mono {s : Session σ α} {post' : α → γ → Link σ → Prop}
    (h : Safe d look place s post g link)
    (hpost : ∀ value g link, post value g link → post' value g link) :
    Safe d look place s post' g link :=
  Program.Safe.mono h (fun _ _ hlook => hlook) fun g out hout => hpost out.1 g out.2 hout

lemma safe_pure {value : α} (h : post value g link) :
    Safe d look place (pure value) post g link := h

lemma safe_bind {s : Session σ α} {f : α → Session σ β} {post : β → γ → Link σ → Prop}
    (h : Safe d look place s (fun value => Safe d look place (f value) post) g link) :
    Safe d look place (s >>= f) post g link :=
  Program.Safe.bind h

lemma safe_owner {post : σ → γ → Link σ → Prop} (h : post link.owner g link) :
    Safe d look place owner post g link := h

lemma safe_update {f : σ → σ} {post : Unit → γ → Link σ → Prop}
    (h : post () g { link with owner := f link.owner }) :
    Safe d look place (update f) post g link := h

/-- An action that changes no share can have any answer. -/
lemma safe_ask {action : Action} {post : action.Answer → γ → Link σ → Prop}
    (hquiet : d.Quiet action) (hlook : look g link) (h : ∀ answer, post answer g link) :
    Safe d look place (ask action) post g link := by
  refine ⟨hlook, fun w G hw hg _ => ⟨g, ?_, h _⟩⟩
  rw [← hg, Function.update_eq_self]
  exact hquiet w G hw

/-- Safety is a logic: others look at what is shown. -/
lemma safe_logic (hd : d.Calm) : Logic (Safe d look place (σ := σ)) look where
  holds_mono := Safe.mono
  holds_pure := safe_pure
  holds_bind := safe_bind
  holds_owner := safe_owner
  holds_update := safe_update
  holds_ask hlocal := safe_ask (hd _ fun request heq => by rwa [heq] at hlocal)

lemma safe_note {post : Unit → γ → Link σ → Prop} (hd : d.Calm) (hlook : look g link)
    (h : post () g link) (level : Level) (component : Component) (message : String) :
    Safe d look place (note level component message) post g link :=
  (safe_logic hd).holds_note hlook h _ _ _

/-- A request is sent once or twice. It takes effect at most once, and if sending cannot fail the
link stays as it is. -/
lemma safe_send {request : Request} {faulty : Prop} {effect : Response → γ → Prop}
    {post : Except TransportError Response → γ → Link σ → Prop} (hd : d.Calm)
    (hsend : d.Sends place request faulty g effect)
    (hlook : ∀ n, look g { link with reconnects := n })
    (herror : ∀ e n, faulty → post (.error e) g { link with reconnects := n })
    (hok : ∀ response g' n, (n = link.reconnects ∨ faulty) → effect response g' →
      post (.ok response) g' { link with reconnects := n }) :
    Safe d look place (send request) post g link := by
  refine ⟨hlook link.reconnects, fun w G hw hg hin => ?_⟩
  rcases hsend w G hw hg hin with ⟨e, hanswer, hfaulty, hw'⟩ | ⟨response, g', hanswer, heff, hw'⟩
  · refine ⟨g, by rwa [← hg, Function.update_eq_self], ?_⟩
    rw [hanswer]
    -- the second sending is the first one once more, over a new link
    show Safe d look place (if e.isRetryable = true then _ else _) post g link
    split
    · refine safe_bind (safe_note hd (hlook link.reconnects) ?_ _ _ _)
      refine safe_bind (safe_ask (hd _ fun _ => by simp) (hlook link.reconnects) fun again => ?_)
      cases again with
      | error e' => exact safe_pure (herror e' link.reconnects hfaulty)
      | ok _ =>
        refine ⟨hlook _, fun w G hw hg hin => ?_⟩
        rcases hsend w G hw hg hin with ⟨e', hanswer, -, hw'⟩ | ⟨response, g', hanswer, heff, hw'⟩
        · refine ⟨g, by rwa [← hg, Function.update_eq_self], ?_⟩
          rw [hanswer]
          exact herror e' _ hfaulty
        · refine ⟨g', hw', ?_⟩
          rw [hanswer]
          exact hok response g' _ (Or.inr hfaulty) heff
    · exact safe_pure (herror e link.reconnects hfaulty)
  · refine ⟨g', hw', ?_⟩
    rw [hanswer]
    exact hok response g' link.reconnects (Or.inl rfl) heff

/-- An operation is carried out by sending its request. -/
lemma safe_perform {operation : Operation α} {faulty : Prop} {effect : Response → γ → Prop}
    {post : Except StoreError α → γ → Link σ → Prop} (hd : d.Calm)
    (hsend : d.Sends place operation.request faulty g effect)
    (hlook : ∀ n, look g { link with reconnects := n })
    (herror : ∀ e n, faulty → post (.error e) g { link with reconnects := n })
    (hok : ∀ response g' n, (n = link.reconnects ∨ faulty) → effect response g' →
      post (operation.read response) g' { link with reconnects := n }) :
    Safe d look place (perform operation) post g link :=
  (safe_logic hd).holds_perform <| safe_send hd hsend hlook (fun _ => herror _) hok

end Session

end CouchLoad
