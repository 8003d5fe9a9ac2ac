import CouchLoad.Proofs.Program.Backends
import CouchLoad.Simulation.Losses

/-!
# Sessions over a line

What becomes of the requests of a session that talks to a service whose answers may get lost. What
a session does to the service depends on the state of the service and on the files, and on nothing
else in the world.
-/

namespace CouchLoad

namespace Service

variable {ω : Type} (v : Service ω) (lost : Nat → Option TransportError) (line : Line ω)
  (files : Files) {r : Request}

/-- An answer is on the way, and it may get lost there. -/
lemma send_ok {response : Response} (h : (v.handle line.service files r).1 = .ok response) :
    v.send lost line files r = ((lost line.answers).elim (.ok response) .error,
      ⟨(v.handle line.service files r).2, line.answers + 1⟩) := by
  unfold send
  split
  · cases hlost : lost line.answers <;> simp_all
  · simp_all

/-- There is no answer that could get lost. -/
lemma send_error {e : TransportError} (h : (v.handle line.service files r).1 = .error e) :
    v.send lost line files r =
      (.error e, { line with service := (v.handle line.service files r).2 }) := by
  unfold send
  split <;> simp_all

/-- Whatever becomes of the answer, the service has handled the request. -/
lemma service_send (r : Request) :
    (v.send lost line files r).2.service = (v.handle line.service files r).2 := by
  cases h : (v.handle line.service files r).1 with
  | ok response => rw [v.send_ok lost line files h]
  | error e => rw [v.send_error lost line files h]

end Service

namespace Session

variable {ω σ α : Type} {v : Service ω} {lost : Nat → Option TransportError} {files : Files}
  {link : Link σ} {line : Line ω}

/-- A request is sent once more over a new line where an error suggests it. -/
lemma leads_send {r : Request} {post : Except TransportError Response → Line ω → Link σ → Prop}
    (hanswer : ∀ answer, (v.send lost line files r).1 = answer →
      (∀ e, answer = .error e → e.isRetryable = false) →
      post answer (v.send lost line files r).2 link)
    (hretry : ∀ e, (v.send lost line files r).1 = .error e → e.isRetryable = true →
      let again := v.send lost (v.relink (v.send lost line files r).2) files r
      post again.1 again.2 { link with reconnects := link.reconnects + 1 }) :
    (send r).Leads (v.lossy lost) files post line link := by
  rintro w rfl rfl
  apply reaches_send
  · exact fun answer heq hfatal => ⟨rfl, hanswer answer heq hfatal⟩
  · intro e heq he
    have hpost := hretry e heq he
    set sent := (((v.lossy lost).send r).run w).2
    have hserver : (sent.note (retryEvent r e)).server = sent.server := sent.server_note _
    have hfiles : (sent.note (retryEvent r e)).files = w.files := sent.files_note _
    show _ ∧ post (v.send lost (v.relink (sent.note _).server) (sent.note _).files r).1
      (v.send lost (v.relink (sent.note _).server) (sent.note _).files r).2 _
    rw [hserver, hfiles]
    exact ⟨hfiles, hpost⟩

/-! ### What becomes of an operation -/

section Performing

variable {operation : Operation α} {post : Except StoreError α → Line ω → Link σ → Prop}

/-- The answer to an operation arrives. -/
lemma leads_perform_arrives {response : Response}
    (h : (v.handle line.service files operation.request).1 = .ok response)
    (harrives : lost line.answers = none)
    (hpost : post (operation.read response)
      ⟨(v.handle line.service files operation.request).2, line.answers + 1⟩ link) :
    (perform operation).Leads (v.lossy lost) files post line link := by
  have hsend := v.send_ok lost line files h
  rw [harrives] at hsend
  refine (leads_logic _ files).holds_perform (leads_send ?_ ?_)
  · rintro answer rfl -
    rw [hsend]
    exact hpost
  · intro e he
    rw [hsend] at he
    cases he

/-- The answer to an operation gets lost, and the answer to the second attempt arrives. -/
lemma leads_perform_lost {e : TransportError} {response response' : Response}
    (h : (v.handle line.service files operation.request).1 = .ok response)
    (hlost : lost line.answers = some e) (he : e.isRetryable = true) {again : ω}
    (hagain : v.reconnect (v.handle line.service files operation.request).2 = again)
    (h' : (v.handle again files operation.request).1 = .ok response')
    (harrives : lost (line.answers + 1) = none)
    (hpost : post (operation.read response')
      ⟨(v.handle again files operation.request).2, line.answers + 2⟩
      { link with reconnects := link.reconnects + 1 }) :
    (perform operation).Leads (v.lossy lost) files post line link := by
  subst hagain
  have hsend := v.send_ok lost line files h
  rw [hlost] at hsend
  set relinked : Line ω :=
    v.relink ⟨(v.handle line.service files operation.request).2, line.answers + 1⟩
  have hresend : v.send lost relinked files operation.request = _ :=
    v.send_ok lost relinked files h'
  refine (leads_logic _ files).holds_perform (leads_send ?_ ?_)
  · rintro answer rfl hfatal
    rw [hsend] at hfatal
    rw [hfatal e rfl] at he
    cases he
  · intro e' he' hretry
    rw [hsend]
    show post (operation.outcome (v.send lost relinked files _).1)
      (v.send lost relinked files _).2 _
    rw [hresend, show relinked.answers = line.answers + 1 from rfl, harrives]
    exact hpost

/-- An operation whose request cannot be sent. -/
lemma leads_perform_unsent {e : TransportError}
    (h : (v.handle line.service files operation.request).1 = .error e)
    (he : e.isRetryable = false)
    (hpost : post (.error (.transport e))
      { line with service := (v.handle line.service files operation.request).2 } link) :
    (perform operation).Leads (v.lossy lost) files post line link := by
  have hsend := v.send_error lost line files h
  refine (leads_logic _ files).holds_perform (leads_send ?_ ?_)
  · rintro answer rfl -
    rw [hsend]
    exact hpost
  · intro e' he' hretry
    rw [hsend] at he'
    cases he'
    rw [he] at hretry
    cases hretry

end Performing

end Session

end CouchLoad
