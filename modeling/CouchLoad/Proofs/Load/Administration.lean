import CouchLoad.Load.Run
import CouchLoad.Proofs.Load.Team

/-!
# The administration of a run

Between the teams a run works alone: it creates and deletes databases and sets security objects. A
step that is not a write of this kind leaves the databases as they are. All that is known about the
world afterwards is known under the condition that the server is within its bounds then.
-/

namespace CouchLoad

open Server Session

namespace Premise

variable (S : Premise) {α β : Type}

/-! ### Computations in the world -/

/-- A computation that ends within the bounds of the server has started within them. -/
def Regular (m : StateM (World Server) α) : Prop :=
  ∀ w, S.Bounded (m.run w).2.server → S.Bounded w.server

variable {S}

lemma Regular.pure (value : α) : S.Regular (Pure.pure value) := fun _ h => h

lemma Regular.bind {m : StateM (World Server) α} {f : α → StateM (World Server) β}
    (h : S.Regular m) (hf : ∀ value, S.Regular (f value)) : S.Regular (m >>= f) :=
  fun w hin => h w (hf _ _ hin)

variable (S)

/-- What the run keeps in mind while it works alone: all databases. -/
def admin : Discipline (World Server) (Table Database) :=
  S.discipline fun databases _ _ G => databases = G 0

lemma regular_session {s : Session Unit α} :
    S.Regular ((unsteady S.outages).host.session () s) :=
  fun _ h => Program.within_of_run (d := S.admin) (s.run { owner := () }) h

/-- A session of the run does to the databases what its rule says. -/
lemma session_spec {s : Session Unit α} {post : α → Table Database → Link Unit → Prop}
    {t : Table Database} {w : World Server}
    (h : Safe S.admin (fun _ _ => True) 0 s post t { owner := () }) (hw : S.Follows w.server)
    (ht : w.server.databases = t)
    (hin : S.Bounded (((unsteady S.outages).host.session () s).run w).2.server) :
    S.Follows (((unsteady S.outages).host.session () s).run w).2.server ∧
      ∃ link, post (((unsteady S.outages).host.session () s).run w).1
        (((unsteady S.outages).host.session () s).run w).2.server.databases link := by
  have hholds : S.admin.Holds w fun _ => t := ⟨hw, ht⟩
  obtain ⟨t', ⟨hw', ht'⟩, hpost⟩ := Program.Safe.run h hholds rfl hin
  rw [Function.update_self] at ht'
  rw [← ht'] at hpost
  exact ⟨hw', _, hpost⟩

end Premise

/-! ### Sessions of a run -/

section Administration

variable {S : Premise} {t : Table Database} {link : Link Unit} {db : String}

/-- An operation of the run does to the databases what the server does. -/
lemma sends_admin {r : Request} {effect : Response → Table Database → Prop}
    (h : ∀ (s : Server) files, s.databases = t →
      ∃ response, (s.respond files r).1 = .ok response ∧
        effect response (s.respond files r).2.databases) :
    S.admin.Sends 0 r (¬S.Steady) t effect := by
  apply S.sends_of_respond id
  rintro s files forged G hs rfl - -
  obtain ⟨response, hresponse, heffect⟩ := h s files hs
  exact ⟨_, by rw [Function.update_self], Or.inr ⟨response, hresponse, heffect⟩⟩

lemma safe_adminNote (level : Level) (message : String)
    {post : Unit → Table Database → Link Unit → Prop} (h : post () t link) :
    Safe S.admin (fun _ _ => True) 0 (Config.note level message) post t link :=
  safe_note S.calm_discipline trivial h _ _ _

/-- A database that is not there cannot be deleted. -/
lemma safe_clear (c : Config) (hdb : db ∉ t.keys) :
    Safe S.admin (fun _ _ => True) 0 (c.clear db) (fun _ t' _ => t' = t) t link := by
  unfold Config.clear
  split
  · have hsend : S.admin.Sends 0 (Operation.deleteDatabase db).request (¬S.Steady) t
        fun response t' => t' = t ∧ ∃ e, (Operation.deleteDatabase db).read response =
          .error e := by
      apply sends_admin
      rintro s files rfl
      have hcontains : s.databases.contains db = false := by
        rw [← Bool.not_eq_true, Table.contains_iff]
        exact hdb
      have hrespond : s.respond files (Operation.deleteDatabase db).request =
          s.execute files (Operation.deleteDatabase db).request (.deleteDatabase db) := rfl
      rw [hrespond]
      simp only [execute, hcontains]
      exact ⟨_, rfl, rfl, _, rfl⟩
    refine safe_bind (safe_perform S.calm_discipline hsend (fun _ => trivial) ?_ ?_)
    · intro e n _
      exact safe_adminNote _ _ rfl
    · rintro response t' n - ⟨rfl, e, hread⟩
      rw [hread]
      exact safe_adminNote _ _ rfl
  · exact safe_pure rfl

/-- A database that is not there is created, or the request is lost. -/
lemma safe_create (hdb : db ∉ t.keys) :
    Safe S.admin (fun _ _ => True) 0 (Config.create db)
      (fun created t' _ => created = true ∧ t' = t.insert db {} ∨
        created = false ∧ t' = t ∧ ¬S.Steady) t link := by
  have hsend : S.admin.Sends 0 (Operation.createDatabase db).request (¬S.Steady) t
      fun response t' => t' = t.insert db {} ∧
        (Operation.createDatabase db).read response = .ok .created := by
    apply sends_admin
    rintro s files rfl
    have hcontains : s.databases.contains db = false := by
      rw [← Bool.not_eq_true, Table.contains_iff]
      exact hdb
    have hrespond : s.respond files (Operation.createDatabase db).request =
        s.execute files (Operation.createDatabase db).request (.createDatabase db) := rfl
    rw [hrespond]
    simp only [execute, hcontains]
    exact ⟨_, rfl, rfl, rfl⟩
  refine safe_bind (safe_perform S.calm_discipline hsend (fun _ => trivial) ?_ ?_)
  · intro e n hsteady
    exact safe_bind (safe_adminNote _ _ (Or.inr ⟨rfl, rfl, hsteady⟩))
  · rintro response t' n - ⟨rfl, hread⟩
    rw [hread]
    exact safe_bind (safe_adminNote _ _ (Or.inl ⟨rfl, rfl⟩))

/-- The security object changes nothing but itself. -/
lemma safe_secure (c : Config) {base : Table Database} {documents : Table StoredDocument}
    {security : Option Json} (ht : t = base.insert db { documents, security }) :
    Safe S.admin (fun _ _ => True) 0 (c.secure db)
      (fun _ t' _ => ∃ security', t' = base.insert db { documents, security := security' }) t
      link := by
  unfold Config.secure
  split
  · exact safe_pure ⟨security, ht⟩
  · rename_i value _
    have hsend : S.admin.Sends 0 (Operation.putSecurity db value).request (¬S.Steady) t
        fun _ t' => t' = base.insert db { documents, security := some value } := by
      apply sends_admin
      rintro s files hs
      have hget : s.databases.get? db = some { documents, security } := by
        rw [hs, ht, Table.get?_insert_self]
      have hrespond : s.respond files (Operation.putSecurity db value).request =
          s.execute files (Operation.putSecurity db value).request (.putSecurity db) := rfl
      rw [hrespond]
      simp only [execute, hget]
      refine ⟨_, rfl, ?_⟩
      rw [putDatabase, hs, ht, Table.insert_insert]
      rfl
    refine safe_bind (safe_perform S.calm_discipline hsend (fun _ => trivial) ?_ ?_)
    · intro e n _
      exact safe_adminNote _ _ ⟨security, ht⟩
    · rintro response t' n - rfl
      split
      · exact safe_adminNote _ _ ⟨some value, rfl⟩
      · exact safe_adminNote _ _ ⟨some value, rfl⟩

lemma safe_announce (c : Config) :
    Safe S.admin (fun _ _ => True) 0 (c.announce db) (fun _ t' _ => t' = t) t link :=
  safe_bind (safe_adminNote _ _ (safe_adminNote _ _ rfl))

lemma safe_recount (reports : List Report) :
    Safe S.admin (fun _ _ => True) 0 (Config.recount reports) (fun _ t' _ => t' = t) t link := by
  induction reports with
  | nil => exact safe_pure rfl
  | cons r rs ih => exact safe_bind (safe_adminNote _ _ ih)

lemma safe_adminClock :
    Safe S.admin (fun _ _ => True) 0 (Session.ask .clock) (fun _ t' _ => t' = t) t link :=
  safe_ask (S.calm_discipline _ fun _ => by simp) trivial fun _ => rfl

end Administration

end CouchLoad
