import CouchLoad.Proofs.Program.Backends
import CouchLoad.Proofs.Server.Contents
import CouchLoad.Proofs.Server.Outages

/-!
# Requests over a server with outages

A request is sent once, and once more if the first attempt was dropped. So it reaches the server at
most once: a server that has responded does not make anybody try again.
-/

namespace CouchLoad

open Server Session

namespace Premise

variable (S : Premise)

/-- What a request has come to: it has been dropped, and then the databases are as before, or the
server has responded to it. -/
inductive Sent (s : Server) (r : Request) : Except TransportError Response → Server → Prop where
  | dropped {t : Server} (e : TransportError) (follows : S.Follows t)
      (databases : t.databases = s.databases) (arrived : S.arrived t = S.arrived s) :
      Sent s r (.error e) t
  | through {u : Server} (files : Files) (databases : u.databases = s.databases)
      (follows : S.Follows (u.respond files r).2)
      (arrived : S.arrived (u.respond files r).2 = S.arrived s ++ [r]) :
      Sent s r (u.respond files r).1 (u.respond files r).2

variable {S}

lemma Sent.follows {s t : Server} {r : Request} {answer : Except TransportError Response}
    (h : S.Sent s r answer t) : S.Follows t := by
  cases h with
  | dropped _ follows => exact follows
  | through _ _ follows => exact follows

/-- Only a request that has been dropped is sent once more. -/
lemma Sent.of_retryable {s t : Server} {r : Request} {answer : Except TransportError Response}
    {e : TransportError} (h : S.Sent s r answer t) (hanswer : answer = .error e)
    (hretry : e.isRetryable = true) :
    t.databases = s.databases ∧ S.arrived t = S.arrived s := by
  cases h with
  | dropped _ _ databases arrived => exact ⟨databases, arrived⟩
  | through =>
    rw [respond_not_retryable hanswer] at hretry
    cases hretry

/-- What a request comes to after an attempt that was dropped. -/
lemma Sent.again {s t u : Server} {r : Request} {answer : Except TransportError Response}
    (h : S.Sent t r answer u) (hdatabases : t.databases = s.databases)
    (harrived : S.arrived t = S.arrived s) : S.Sent s r answer u := by
  cases h with
  | dropped e follows databases arrived =>
    exact .dropped e follows (databases.trans hdatabases) (arrived.trans harrived)
  | through files databases follows arrived =>
    rw [harrived] at arrived
    exact .through files (databases.trans hdatabases) follows arrived

/-- A single attempt. -/
lemma sent_handle {s : Server} (h : S.Follows s) (files : Files) (r : Request) :
    S.Sent s r ((s.interrupt S.outages).handle files r).1
      ((s.interrupt S.outages).handle files r).2 := by
  have hfollows := h.handle files r
  have harrived := passed_handle h files r
  by_cases hpass : (s.interrupt S.outages).pendingFailures = 0
  · rw [if_pos hpass] at harrived
    rw [handle_of_calm hpass] at hfollows harrived ⊢
    exact .through files (databases_interrupt ..) hfollows harrived
  · rw [if_neg hpass, List.append_nil] at harrived
    rw [handle_of_pending hpass] at hfollows harrived ⊢
    exact .dropped _ hfollows (databases_interrupt ..) harrived

variable {σ α : Type} {files : Files} {s : Server} {link : Link σ}

/-- A request comes to something in one attempt or in two. -/
lemma leads_send {r : Request} {post : Except TransportError Response → Server → Link σ → Prop}
    (hs : S.Follows s)
    (h : ∀ answer t link', link'.owner = link.owner → S.Sent s r answer t → post answer t link') :
    (send r).Leads (unsteady S.outages) files post s link := by
  rintro w rfl rfl
  have hfirst := sent_handle hs w.files r
  refine Session.reaches_send ?_ ?_
  · rintro answer rfl -
    exact ⟨rfl, h _ _ _ rfl hfirst⟩
  · intro e he hretry
    obtain ⟨hdatabases, harrived⟩ := hfirst.of_retryable he hretry
    set sent := ((w.server.interrupt S.outages).handle w.files r).2
    set noted := World.note { w with server := sent } (retryEvent r e)
    have hnoted : noted.server = sent := World.server_note ..
    have hfollows : S.Follows noted.server.reconnect := by
      rw [hnoted]
      exact ⟨hfirst.follows.size, hfirst.follows.pending⟩
    have hsecond := sent_handle hfollows noted.files r
    refine ⟨World.files_note .., h _ _ _ rfl (hsecond.again ?_ ?_)⟩
    · rw [hnoted]
      exact hdatabases
    · rw [hnoted]
      exact harrived

/-- An operation makes something of what its request has come to. -/
lemma leads_perform {operation : Operation α}
    {post : Except StoreError α → Server → Link σ → Prop} (hs : S.Follows s)
    (h : ∀ answer t link', link'.owner = link.owner → S.Sent s operation.request answer t →
      post (operation.outcome answer) t link') :
    (perform operation).Leads (unsteady S.outages) files post s link :=
  (leads_logic _ files).holds_perform (leads_send hs h)

end Premise

end CouchLoad
