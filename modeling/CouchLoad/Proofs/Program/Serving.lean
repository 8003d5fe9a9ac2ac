import CouchLoad.Proofs.Program.Backends
import CouchLoad.Proofs.Server.Contents
import CouchLoad.Proofs.Server.Outages

/-!
# Sessions over a server in memory

One rule for each step of a session that a server in memory answers. No failures are pending, so
every request is handled, and each of them is sent once. Bounds on the server that are kept by all
that came before can be taken for granted at each step, if they are known at the end.
-/

namespace CouchLoad

open Server

/-- Bounds that a server does not come back to once it has left them. -/
structure Server.Lasting (within : Server → Prop) : Prop where
  handle : ∀ s files r, within (Server.handle s files r).2 → within s
  reconnect : ∀ s, within (Server.reconnect s) → within s

variable {within : Server → Prop} {σ τ α β : Type}

/-- While a program is carried out, no failures come up, and no bounds are come back to. -/
lemma Program.run_served (hwithin : Lasting within) (p : Program τ α) {w : World Server}
    (hcalm : w.server.pendingFailures = 0) :
    let out := (p.run backend.perform).run w
    out.2.server.pendingFailures = 0 ∧ (within out.2.server → within w.server) := by
  induction p generalizing w with
  | done value => exact ⟨hcalm, id⟩
  | ask state action resume ih =>
    have hstep : ((backend.perform action).run w).2.server.pendingFailures = 0 ∧
        (within ((backend.perform action).run w).2.server → within w.server) := by
      cases action with
      | send r =>
        refine ⟨?_, hwithin.handle w.server w.files r⟩
        show (w.server.handle w.files r).2.pendingFailures = 0
        rw [pendingFailures_handle, hcalm]
      | reconnect => exact ⟨hcalm, hwithin.reconnect w.server⟩
      | note event =>
        show (w.note event).server.pendingFailures = 0 ∧ (within (w.note event).server → _)
        rw [w.server_note]
        exact ⟨hcalm, id⟩
      | readFile path => exact ⟨hcalm, id⟩
      | clock => exact ⟨hcalm, id⟩
    obtain ⟨hend, hback⟩ := ih _ hstep.1
    exact ⟨hend, hstep.2 ∘ hback⟩

namespace Session

/-- Over a server that drops nothing, a session ends with a value, a server and a link as said, if
this server is within some bounds. -/
def Serves (within : Server → Prop) (s : Session σ α) (post : α → Server → Link σ → Prop)
    (server : Server) (link : Link σ) : Prop :=
  ∀ w : World Server, w.server = server → w.server.pendingFailures = 0 →
    s.Reaches backend (fun value link w => within w.server → post value w.server link) link w

variable {link : Link σ} {server : Server} {post : α → Server → Link σ → Prop}

lemma Serves.mono {s : Session σ α} {post' : α → Server → Link σ → Prop}
    (h : s.Serves within post server link)
    (hpost : ∀ value server link, post value server link → post' value server link) :
    s.Serves within post' server link := fun w hserver hcalm =>
  (h w hserver hcalm).mono fun value link w h hin => hpost value w.server link (h hin)

lemma serves_pure {value : α} (h : post value server link) :
    (pure value : Session σ α).Serves within post server link := by
  rintro w rfl -
  exact reaches_pure fun _ => h

lemma serves_bind (hwithin : Lasting within) {s : Session σ α} {f : α → Session σ β}
    {post : β → Server → Link σ → Prop}
    (h : s.Serves within (fun value => (f value).Serves within post) server link) :
    (s >>= f).Serves within post server link := by
  intro w hserver hcalm
  have hmid : s.Reaches backend (fun value link w => w.server.pendingFailures = 0 ∧
      (within w.server → (f value).Serves within post w.server link)) link w :=
    ⟨(Program.run_served hwithin (s.run link) hcalm).1, h w hserver hcalm⟩
  refine reaches_bind (hmid.mono ?_)
  rintro value link' w' ⟨hcalm', hrest⟩
  obtain ⟨-, hback⟩ := Program.run_served hwithin ((f value).run link') hcalm'
  exact fun hin => hrest (hback hin) w' rfl hcalm' hin

lemma serves_owner {post : σ → Server → Link σ → Prop} (h : post link.owner server link) :
    owner.Serves within post server link := by
  rintro w rfl -
  exact reaches_owner fun _ => h

lemma serves_update {f : σ → σ} {post : Unit → Server → Link σ → Prop}
    (h : post () server { link with owner := f link.owner }) :
    (update f).Serves within post server link := by
  rintro w rfl -
  exact reaches_update fun _ => h

lemma serves_ask {action : Action} {post : action.Answer → Server → Link σ → Prop}
    (hlocal : action.IsLocal) (h : ∀ answer, post answer server link) :
    (ask action).Serves within post server link := by
  rintro w rfl -
  cases action with
  | send | reconnect => exact hlocal.elim
  | readFile path => exact fun _ => h (w.files path)
  | clock => exact fun _ => h (0 : Nat)
  | note event =>
    show within (w.note event).server → post () (w.note event).server link
    rw [w.server_note]
    exact fun _ => h ()

/-- What sessions do over a server that drops nothing is a logic, in which nobody looks. -/
lemma serves_logic (hwithin : Lasting within) :
    Logic (Serves within (σ := σ)) fun _ _ => True where
  holds_mono := Serves.mono
  holds_pure := serves_pure
  holds_bind := serves_bind hwithin
  holds_owner := serves_owner
  holds_update := serves_update
  holds_ask hlocal _ := serves_ask hlocal

/-- A request is handled once, because the errors of a server that drops nothing suggest no second
attempt. -/
lemma serves_perform {operation : Operation α} {post : Except StoreError α → Server → Link σ → Prop}
    (h : ∀ files, within (server.handle files operation.request).2 →
      post (operation.outcome (server.handle files operation.request).1)
        (server.handle files operation.request).2 link) :
    (perform operation).Serves within post server link := by
  rintro w rfl hcalm
  have hfatal : ∀ e, (w.server.handle w.files operation.request).1 = .error e →
      e.isRetryable = false := by
    intro e he
    rw [handle_of_calm hcalm] at he
    exact respond_not_retryable he
  refine reaches_bind (reaches_send ?_ ?_)
  · rintro answer hanswer -
    have hpost := h w.files
    have heq : (w.server.handle w.files operation.request).1 = answer := hanswer
    rw [heq] at hpost
    cases answer with
    | ok response => exact reaches_pure hpost
    | error e => exact reaches_pure hpost
  · intro e he hretry
    rw [hfatal e he] at hretry
    cases hretry

end Session

end CouchLoad
