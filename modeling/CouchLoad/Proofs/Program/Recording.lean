import CouchLoad.Proofs.Load.Correspondence
import CouchLoad.Proofs.Program.Backends
import CouchLoad.Simulation.Recording

/-!
# What programs add to the record

All requests that a program can ever send are known from its steps, whatever the answers are. So
however programs side by side take turns, all that is sent meanwhile was sent by one of them.

Writing down what is sent makes no difference: with the record left out, what happens is what
happens without it.
-/

namespace CouchLoad

variable {ω σ α β : Type} {b : Backend ω} {P : Request → Prop}

/-! ### Requests that programs can send -/

namespace Program

/-- Whatever the answers are, a program sends only requests as said and ends with a value as
said. -/
def SendsOnly (P : Request → Prop) (Q : α → Prop) : Program σ α → Prop
  | .done value => Q value
  | .ask _ action resume =>
    (∀ request, action = .send request → P request) ∧ ∀ answer, (resume answer).SendsOnly P Q

variable {Q : α → Prop}

lemma SendsOnly.bind {R : β → Prop} {p : Program σ α} {f : α → Program σ β} (h : p.SendsOnly P Q)
    (hf : ∀ value, Q value → (f value).SendsOnly P R) : (p >>= f).SendsOnly P R := by
  induction p with
  | done value => exact hf value h
  | ask state action resume ih => exact ⟨h.1, fun answer => ih answer (h.2 answer)⟩

lemma SendsOnly.mono {Q' : α → Prop} {p : Program σ α} (h : p.SendsOnly P Q)
    (hpost : ∀ value, Q value → Q' value) : p.SendsOnly P Q' := by
  induction p with
  | done value => exact hpost value h
  | ask state action resume ih => exact ⟨h.1, fun answer => ih answer (h.2 answer)⟩

lemma sendsOnly_quiet {state : σ} {action : Action} (h : ∀ request, action ≠ .send request)
    {resume : action.Answer → Program σ α} (hresume : ∀ answer, (resume answer).SendsOnly P Q) :
    (ask state action resume).SendsOnly P Q :=
  ⟨fun request heq => absurd heq (h request), hresume⟩

end Program

namespace Session

/-- A session sends only requests as said and ends with a value and a link as said. -/
def SendsOnly (P : Request → Prop) (s : Session σ α) (post : α → Unit → Link σ → Prop) (_ : Unit)
    (link : Link σ) : Prop :=
  (s.run link).SendsOnly P fun out => post out.1 () out.2

/-- What sessions send is told by a logic, in which nobody looks. -/
lemma sendsOnly_logic (P : Request → Prop) : Logic (SendsOnly P (σ := σ)) fun _ _ => True where
  holds_mono h hpost := Program.SendsOnly.mono h fun _ => hpost _ _ _
  holds_pure h := h
  holds_bind h := Program.SendsOnly.bind h fun _ => id
  holds_owner h := h
  holds_update h := h
  holds_ask hlocal _ h := Program.sendsOnly_quiet (by rintro request rfl; exact hlocal) h

lemma sendsOnly_send {r : Request} (h : P r) (link : Link σ) :
    (send r).SendsOnly P (fun _ _ _ => True) () link := by
  have hsends : ∀ request, Action.send r = .send request → P request := by
    rintro request ⟨⟩
    exact h
  refine ⟨hsends, fun first => ?_⟩
  cases first with
  | ok response => trivial
  | error e =>
    show Program.SendsOnly P _ (StateT.run (if e.isRetryable = true then _ else _) link)
    split
    · refine Program.sendsOnly_quiet (by simp) fun _ => ?_
      refine Program.sendsOnly_quiet (by simp) fun again => ?_
      cases again with
      | error e => trivial
      | ok _ => exact ⟨hsends, fun _ => trivial⟩
    · trivial

end Session

/-! ### What is added to the record -/

namespace Recording

lemma recording_bind (m : Recording ω α) (f : α → Recording ω β) (r : Record) (w : World ω) :
    ((m >>= f).run r).run w =
      ((f ((m.run r).run w).1.1).run ((m.run r).run w).1.2).run ((m.run r).run w).2 := rfl

/-- A connection has the number of those that were opened before it. -/
lemma recording_connect {w : World ω} (hconnect : (b.connect.run w).1 = .ok ()) (r : Record) :
    (b.recordConnect.run r).run w =
      ((.ok r.opened, { r with opened := r.opened + 1 }), (b.connect.run w).2) := by
  have hlift : ((liftM b.connect : Recording ω _).run r).run w =
      (((b.connect.run w).1, r), (b.connect.run w).2) := rfl
  unfold Backend.recordConnect
  rw [recording_bind, hlift, hconnect]
  rfl

/-- While the connection of the run itself is open, something adds sendings to the record and ends
with a value as said. -/
def Adds (m : Recording ω α) (post : List Sending → α → Prop) : Prop :=
  ∀ r w, 0 < r.opened →
    let out := (m.run r).run w
    ∃ sent, out.1.2.sent = r.sent ++ sent ∧ 0 < out.1.2.opened ∧ post sent out.1.1

variable {m : Recording ω α} {post : List Sending → α → Prop}

lemma Adds.mono {post' : List Sending → α → Prop} (h : m.Adds post)
    (hpost : ∀ sent value, post sent value → post' sent value) : m.Adds post' := by
  intro r w hr
  obtain ⟨sent, hsent, hopened, hvalue⟩ := h r w hr
  exact ⟨sent, hsent, hopened, hpost sent _ hvalue⟩

lemma adds_pure {value : α} (h : post [] value) : (pure value : Recording ω α).Adds post :=
  fun r _ hr => ⟨[], (List.append_nil r.sent).symm, hr, h⟩

lemma Adds.bind {f : α → Recording ω β} {post : List Sending → β → Prop}
    (h : m.Adds fun sent value =>
      (f value).Adds fun sent' result => post (sent ++ sent') result) :
    (m >>= f).Adds post := by
  intro r w hr
  obtain ⟨sent, hsent, hopened, hrest⟩ := h r w hr
  obtain ⟨sent', hsent', hopened', hresult⟩ := hrest _ ((m.run r).run w).2 hopened
  refine ⟨sent ++ sent', ?_, hopened', hresult⟩
  rw [← List.append_assoc, ← hsent]
  exact hsent'

/-- What does not know of the record leaves it alone. -/
lemma adds_lift {x : StateM (World ω) α} (h : ∀ w, post [] (x.run w).1) :
    (liftM x : Recording ω α).Adds post :=
  fun r w hr => ⟨[], (List.append_nil r.sent).symm, hr, h w⟩

/-- A connection that is opened later than the one of the run has another number. -/
lemma adds_connect (hconnect : ∀ w, (b.connect.run w).1 = .ok ())
    {post : List Sending → Except TransportError Nat → Prop}
    (h : ∀ connection ≠ 0, post [] (.ok connection)) : b.recordConnect.Adds post := by
  intro r w hr
  rw [recording_connect (hconnect w)]
  exact ⟨[], (List.append_nil r.sent).symm, Nat.succ_pos _, h _ (Nat.ne_of_gt hr)⟩

lemma adds_send {connection : Nat} {r : Request}
    {post : List Sending → Except TransportError Response → Prop}
    (h : ∀ answer, post [⟨connection, r, answer⟩] answer) :
    (b.recordPerform connection (.send r)).Adds post :=
  fun _ _ hr => ⟨_, rfl, hr, h _⟩

lemma adds_quiet {connection : Nat} {action : Action} (hquiet : ∀ r, action ≠ .send r)
    {post : List Sending → action.Answer → Prop} (h : ∀ answer, post [] answer) :
    (b.recordPerform connection action).Adds post := by
  intro record w hopened
  cases action with
  | send r => exact absurd rfl (hquiet r)
  | _ => exact ⟨[], (List.append_nil record.sent).symm, hopened, h _⟩

/-- Sendings over a connection, of requests as said. -/
def Over (connection : Nat) (P : Request → Prop) (sent : List Sending) : Prop :=
  ∀ s ∈ sent, s.connection = connection ∧ P s.request

/-- A program that is carried out adds what it sends. -/
lemma adds_run {connection : Nat} {p : Program σ α} {Q : α → Prop} (h : p.SendsOnly P Q) :
    (p.run (b.recordPerform connection)).Adds fun sent _ => Over connection P sent := by
  induction p with
  | done value => exact adds_pure (by simp [Over])
  | ask state action resume ih =>
    have hrest := fun answer => ih answer (h.2 answer)
    by_cases hsend : ∃ r, action = .send r
    · obtain ⟨r, rfl⟩ := hsend
      refine Adds.bind (adds_send fun answer => (hrest answer).mono fun sent _ hsent => ?_)
      exact List.forall_mem_cons.2 ⟨⟨rfl, h.1 r rfl⟩, hsent⟩
    · exact Adds.bind (adds_quiet (fun r heq => hsend ⟨r, heq⟩) hrest)

/-! ### Programs side by side -/

/-- Sendings over the connections of workers, of requests as said. -/
def Apart (P : Request → Prop) (sent : List Sending) : Prop :=
  ∀ s ∈ sent, s.connection ≠ 0 ∧ P s.request

/-- Programs that have connections of their own, and send only requests as said. -/
def Working (P : Request → Prop) (pool : Pool Nat σ α) : Prop :=
  ∀ entry ∈ pool, entry.1 ≠ 0 ∧ entry.2.SendsOnly P fun _ => True

variable {pool : Pool Nat σ α}

lemma adds_turn (h : Working P pool) (place : Nat) :
    (pool.turn b.recordPerform place).Adds fun sent pool => Apart P sent ∧ Working P pool := by
  unfold Pool.turn
  cases hplace : pool[place]? with
  | none => exact adds_pure ⟨by simp [Apart], h⟩
  | some entry =>
    obtain ⟨connection, p⟩ := entry
    obtain ⟨hconnection, hp⟩ := h _ (List.mem_of_getElem? hplace)
    have hset : ∀ p : Program σ α, p.SendsOnly P (fun _ => True) →
        Working P (pool.set place (connection, p)) := by
      intro p hp entry hentry
      rcases List.mem_or_eq_of_mem_set hentry with hold | rfl
      · exact h entry hold
      · exact ⟨hconnection, hp⟩
    cases p with
    | done value => exact adds_pure ⟨by simp [Apart], hset _ hp⟩
    | ask state action resume =>
      by_cases hsend : ∃ r, action = .send r
      · obtain ⟨r, rfl⟩ := hsend
        refine Adds.bind (Adds.bind (adds_send fun answer => adds_pure (adds_pure ?_)))
        exact ⟨by simpa [Apart] using ⟨hconnection, hp.1 r rfl⟩, hset _ (hp.2 answer)⟩
      · refine Adds.bind (Adds.bind (adds_quiet (fun r heq => hsend ⟨r, heq⟩) fun answer => ?_))
        exact adds_pure (adds_pure ⟨by simp [Apart], hset _ (hp.2 answer)⟩)

lemma Apart.append {sent sent' : List Sending} (h : Apart P sent) (h' : Apart P sent') :
    Apart P (sent ++ sent') :=
  List.forall_mem_append.2 ⟨h, h'⟩

lemma adds_advance (h : Working P pool) (schedule : List Nat) :
    (pool.advance b.recordPerform schedule).Adds fun sent pool =>
      Apart P sent ∧ Working P pool := by
  induction schedule generalizing pool with
  | nil => exact adds_pure ⟨by simp [Apart], h⟩
  | cons place schedule ih =>
    refine Adds.bind ((adds_turn h place).mono fun sent pool hturn => ?_)
    exact (ih hturn.2).mono fun sent' pool' hrest => ⟨hturn.1.append hrest.1, hrest.2⟩

lemma adds_finish (h : Working P pool) :
    (pool.finish b.recordPerform).Adds fun sent _ => Apart P sent := by
  induction pool with
  | nil => exact adds_pure (by simp [Apart])
  | cons entry pool ih =>
    obtain ⟨hentry, hpool⟩ := List.forall_mem_cons.1 h
    refine Adds.bind ((adds_run hentry.2).mono fun sent value hsent => ?_)
    refine Adds.bind ((ih hpool).mono fun sent' values hsent' => adds_pure ?_)
    rw [List.append_nil]
    refine Apart.append (fun s hs => ?_) hsent'
    obtain ⟨hconnection, hrequest⟩ := hsent s hs
    exact ⟨hconnection ▸ hentry.1, hrequest⟩

/-- However programs side by side take turns, all that is sent meanwhile was sent by one of them. -/
theorem adds_together {pool : Pool Nat (Link Progress) Report} (h : Working P pool) :
    (b.recorder.together pool).Adds fun sent _ => Apart P sent := by
  refine Adds.bind (adds_lift fun w => ?_)
  refine Adds.bind ((adds_advance h _).mono fun sent pool hturns => ?_)
  exact (adds_finish hturns.2).mono fun sent' _ hrest => hturns.1.append hrest

end Recording

/-! ### Sessions of the run itself -/

namespace Session

/-- Over the connection of the run itself, a session adds sendings to the record and ends with a
value as said. -/
def Records (b : Backend ω) (s : Session σ α) (post : List Sending → α → Prop) : Prop :=
  ∀ link, Recording.Adds ((s.run link).run (b.recordPerform 0)) fun sent out => post sent out.1

open Recording

variable {post : List Sending → α → Prop}

lemma Records.mono {s : Session σ α} {post' : List Sending → α → Prop} (h : s.Records b post)
    (hpost : ∀ sent value, post sent value → post' sent value) : s.Records b post' :=
  fun link => (h link).mono fun sent out hout => hpost sent out.1 hout

lemma records_pure {value : α} (h : post [] value) :
    (pure value : Session σ α).Records b post := fun _ => adds_pure h

lemma Records.bind {s : Session σ α} {f : α → Session σ β} {post : List Sending → β → Prop}
    (h : s.Records b fun sent value =>
      (f value).Records b fun sent' result => post (sent ++ sent') result) :
    (s >>= f).Records b post := by
  intro link
  have hrun : ((s >>= f).run link).run (b.recordPerform 0) =
      (s.run link).run (b.recordPerform 0) >>= fun out =>
        ((f out.1).run out.2).run (b.recordPerform 0) := Program.run_bind ..
  rw [hrun]
  exact Adds.bind ((h link).mono fun sent out hrest => hrest out.2)

lemma records_modify {f : Link σ → Link σ} {post : List Sending → Unit → Prop}
    (h : post [] ()) : (modify f : Session σ Unit).Records b post := fun _ => adds_pure h

lemma records_ask {action : Action} (hquiet : ∀ r, action ≠ .send r)
    {post : List Sending → action.Answer → Prop} (h : ∀ answer, post [] answer) :
    (ask action : Session σ _).Records b post :=
  fun _ => Adds.bind (adds_quiet hquiet fun answer => adds_pure (h answer))

lemma records_note {post : List Sending → Unit → Prop} (h : post [] ()) (level : Level)
    (component : Component) (message : String) :
    (note level component message : Session σ Unit).Records b post :=
  records_ask (by simp) fun _ => h

lemma records_ask_send {r : Request} {post : List Sending → Except TransportError Response → Prop}
    (h : ∀ answer, post [⟨0, r, answer⟩] answer) :
    (ask (.send r) : Session σ _).Records b post :=
  fun _ => Adds.bind (adds_send fun answer => adds_pure (h answer))

/-- A request is recorded once or twice, and it is answered as it was the last time, or not at
all. -/
lemma records_send (r : Request) :
    (send r : Session σ _).Records b fun sent answer =>
      (∀ s ∈ sent, s.connection = 0 ∧ s.request = r) ∧
        ∃ last ∈ sent.getLast?, ∀ response, answer = .ok response ↔ last.answer = .ok response := by
  refine Records.bind (records_ask_send fun first => ?_)
  cases first with
  | ok response => exact records_pure ⟨by simp, _, rfl, by simp⟩
  | error e =>
    simp only
    split
    · refine Records.bind (records_note ?_ _ _ _)
      refine Records.bind (records_ask (by simp) fun again => ?_)
      cases again with
      | error e' => exact records_pure ⟨by simp, _, rfl, by simp⟩
      | ok _ =>
        refine Records.bind (records_modify ?_)
        exact records_ask_send fun second => ⟨by simp, _, rfl, by simp⟩
    · exact records_pure ⟨by simp, _, rfl, by simp⟩

/-- What is recorded of an operation of the run: its request was sent, and the last answer decides
what came of it. -/
structure Performed (operation : Operation α) (sent : List Sending)
    (result : Except StoreError α) : Prop where
  request : ∀ s ∈ sent, s.connection = 0 ∧ s.request = operation.request
  answered : ∃ last ∈ sent.getLast?, ∀ value, result = .ok value ↔
    ∃ response, last.answer = .ok response ∧ operation.read response = .ok value

lemma Performed.ne_nil {operation : Operation α} {sent : List Sending}
    {result : Except StoreError α} (h : Performed operation sent result) : sent ≠ [] := by
  rintro rfl
  obtain ⟨last, hlast, -⟩ := h.answered
  simp at hlast

lemma records_perform (operation : Operation α) :
    (perform operation : Session σ _).Records b (Performed operation) := by
  refine Records.bind ((records_send operation.request).mono fun sent answer hsent => ?_)
  obtain ⟨hrequest, last, hlast, hanswer⟩ := hsent
  cases answer with
  | ok response =>
    refine records_pure ⟨by simpa using hrequest, last, by simpa using hlast, fun value => ?_⟩
    simp [(hanswer response).1 rfl]
  | error e =>
    refine records_pure ⟨by simpa using hrequest, last, by simpa using hlast, fun value => ?_⟩
    have hnone : ∀ response, last.answer ≠ .ok response := fun response heq =>
      nomatch (hanswer response).2 heq
    simp [hnone]

end Session

/-! ### The record left out -/

namespace Recording

/-- What happens and is written down is what happens without that, except that values may look
another way. -/
def Erases (R : α → β → Prop) (m : Recording ω α) (m' : StateM (World ω) β) : Prop :=
  ∀ r w, R ((m.run r).run w).1.1 (m'.run w).1 ∧ ((m.run r).run w).2 = (m'.run w).2

/-- The recorder does what is done without it, over connections that it has numbered. -/
lemma matches_recorder : b.recorder.Matches (.forgetting Record (World ω)) (fun _ _ => True)
    b.host where
  connect := Correspondence.forgetting_open (fun _ => rfl) fun _ _ => ⟨_, _, rfl⟩
  perform _ _ _ _ _ _ := ⟨rfl, rfl⟩
  newSource _ _ := ⟨rfl, rfl⟩
  together pool pool' hpool := by
    refine Correspondence.bind_eq _ (x := liftM World.nextSchedule) (fun _ _ => ⟨rfl, rfl⟩) ?_
    exact Correspondence.rel_pool _ (fun _ _ _ _ _ _ => ⟨rfl, rfl⟩) hpool

end Recording

end CouchLoad
