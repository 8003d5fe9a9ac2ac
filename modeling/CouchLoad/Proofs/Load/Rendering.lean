import CouchLoad.Load.Config
import CouchLoad.Proofs.Document.Body
import CouchLoad.Proofs.Program.Sessions
import CouchLoad.Proofs.Template.Pruning

/-!
# Documents of counters

What a template can be rendered to for a counter, whatever is random and whatever the files hold.
Every document that comes of it has well-formed fields, because pruning writes them into a table.
-/

namespace CouchLoad

namespace Template

/-- A document that has been rendered is well-formed. -/
theorem wellFormed_of_render {t : Template} {ctx : Context} {mode : AttachmentMode}
    {files : Files} {fresh : Entropy.Uuid} {s : Entropy.Source} {d : Document}
    (h : (t.render ctx mode files fresh s).1 = .ok d) : d.WellFormed := by
  have hrender : ((t.compile ctx s).1.bind (prune ctx)).bind (Document.ofJson mode files fresh) =
      .ok d := h
  obtain ⟨pruned, hpruned, hjson⟩ := bind_eq_ok_iff.1 hrender
  obtain ⟨v, -, hv⟩ := bind_eq_ok_iff.1 hpruned
  cases pruned with
  | object members =>
    have htidy := Json.tidy_object_iff.1 (pruned_of_prune v hv).tidy
    exact Document.wellFormed_of_ofJson htidy.1 hjson
  | _ => cases hjson

/-- Generating a document during a run is rendering it with the files that are read. -/
lemma generate_readsFor (t : Template) (ctx : Context) (mode : AttachmentMode)
    (s : Entropy.Source) :
    (t.generate ctx mode s).ReadsFor fun out => ∃ files,
      let fresh := Entropy.Uuid.draw (t.value ctx s).2
      out = ((t.render ctx mode files fresh.1 s).1, fresh.2) := by
  unfold generate render
  cases hvalue : t.value ctx s with
  | mk value s' =>
    cases value with
    | error e => exact ⟨fun _ => .error .notFound, rfl⟩
    | ok v =>
      refine Program.ReadsFor.bind (Program.readFiles_readsFor () _) fun files _ => ?_
      exact ⟨files, rfl⟩

end Template

namespace Config

/-- A document that the template can be rendered to for a counter. -/
def Renders (c : Config) (counter : Nat) (d : Document) : Prop :=
  ∃ files fresh s,
    (c.template.render (c.context counter) c.attachmentMode files fresh s).1 = .ok d

/-- The template cannot always be rendered for a counter. -/
def FailsToRender (c : Config) (counter : Nat) : Prop :=
  ∃ files fresh s e,
    (c.template.render (c.context counter) c.attachmentMode files fresh s).1 = .error e

lemma Renders.wellFormed {c : Config} {counter : Nat} {d : Document} (h : c.Renders counter d) :
    d.WellFormed := by
  obtain ⟨files, fresh, s, h⟩ := h
  exact Template.wellFormed_of_render h

end Config

/-- A rendering of a counter: where the source of randomness stood, and what the files held. -/
structure Rendering where
  counter : Nat
  source : Entropy.Source
  files : Files

namespace Rendering

/-- The identifier that is drawn behind the template, and the source behind it. -/
def fresh (c : Config) (r : Rendering) : Entropy.Uuid × Entropy.Source :=
  Entropy.Uuid.draw (c.template.value (c.context r.counter) r.source).2

/-- What comes of a rendering. -/
def made (c : Config) (r : Rendering) : Except Template.Error Document :=
  (c.template.render (c.context r.counter) c.attachmentMode r.files (r.fresh c).1 r.source).1

/-- The source that a rendering leaves. -/
def behind (c : Config) (r : Rendering) : Entropy.Source :=
  (r.fresh c).2

lemma renders {c : Config} {r : Rendering} {d : Document} (h : r.made c = .ok d) :
    c.Renders r.counter d :=
  ⟨r.files, _, r.source, h⟩

lemma failsToRender {c : Config} {r : Rendering} {e : Template.Error} (h : r.made c = .error e) :
    c.FailsToRender r.counter :=
  ⟨r.files, _, r.source, e, h⟩

end Rendering

namespace Config

/-! ### A small run -/

/-- A configuration of two workers with one document each, which holds nothing but its id. Every
document is written twice and gets a conflict. -/
def small : Config where
  template := ⟨[.literal ['{', '"', '_', 'i', 'd', '"', ':', '"'], .reference .counter,
    .literal ['"', '}']]⟩
  documents := 2
  bulkBatch := 2
  revisions := 2
  conflicts := 1
  workers := 2

lemma render_small {counter : Nat} (h : counter ∈ [1, 2]) (files : Files) (fresh : Entropy.Uuid)
    (s : Entropy.Source) :
    (small.template.render (small.context counter) small.attachmentMode files fresh s).1 =
      .ok { id := toString counter, rev := none, fields := [], attachments := [] } := by
  simp only [List.mem_cons, List.not_mem_nil, or_false] at h
  rcases h with rfl | rfl
  · rfl
  · rfl

/-- The small run renders each counter to one document. -/
lemma renders_small {counter : Nat} (h : counter ∈ [1, 2]) {d : Document}
    (hd : small.Renders counter d) :
    d = { id := toString counter, rev := none, fields := [], attachments := [] } := by
  obtain ⟨files, fresh, s, hd⟩ := hd
  rw [render_small h, Except.ok.injEq] at hd
  exact hd.symm

end Config

end CouchLoad
