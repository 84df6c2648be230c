import Mustache.Proofs.Cache.Operation
import Mustache.Proofs.Render.Oblivious

/-!
# Engines and the escaping of their templates

How values are escaped is settled when an engine is made. What it compiles escapes in this way, and
it keeps nothing but what it has compiled. So the templates that it includes, and those that it is
asked for, all escape alike, whatever has been done with the engine before.

## Main definitions

* `Mustache.Session.EscapesAs` — the engine escapes in a given way, and so does what it keeps.

## Main results

* `Mustache.escaping_of_loadPartial?` — included templates escape so.
* `Mustache.escapesAs_of_operations` — whatever is done, it stays so.
-/

namespace Mustache

/-- The engine escapes in the given way, and so do the templates from loaders that it keeps. -/
structure Engine.EscapesAs (escaping : Escaping) (e : Engine) : Prop where
  configuration : e.escaping = escaping
  templates : ∀ entry ∈ e.templates, entry.2.escaping = escaping

/-- **The engine of the session escapes in the given way**, and so does what it keeps. -/
def Session.EscapesAs (escaping : Escaping) (s : Session) : Prop :=
  ∃ e, s.engine = some e ∧ e.EscapesAs escaping

/-- An engine that has compiled nothing escapes as it is configured to do. -/
theorem Engine.escapesAs_of_templates_eq_nil {e : Engine} (h : e.templates = []) :
    e.EscapesAs e.escaping := ⟨rfl, by simp [h]⟩

section

variable {escaping : Escaping}

/-- Rendering and loading keep it so. -/
theorem isUnseen_escapesAs (escaping : Escaping) :
    IsUnseen (fun s s' => s' = s ∧ s.EscapesAs escaping) fun e => e.escaping = escaping := by
  refine isUnseen_of_condition (fun h => h.configuration) (fun h _ => ⟨h.1, h.2⟩)
    (fun h _ => ⟨h.1, h.2⟩) fun {e c} h hc key t ht => ⟨h.1, fun entry hentry => ?_⟩
  rcases List.mem_append.1 hentry with hentry | hentry
  · exact h.templates entry hentry
  · obtain rfl := List.mem_singleton.1 hentry
    exact ht.trans hc

/-- What an action leaves behind that keeps it so. -/
theorem Session.EscapesAs.of_eq_ok {α : Type} {act : Action α}
    (h : Oblivious (fun s s' => s' = s ∧ s.EscapesAs escaping) act) {s s' : Session} {a : α}
    (hs : s.EscapesAs escaping) (hrun : act s = .ok a s') : s'.EscapesAs escaping := by
  have hkeeps := h.keeps hs
  rwa [hrun] at hkeeps

/-! ## Templates that are loaded -/

theorem escaping_of_loadSource {below : Below} {source name : Value} {s s' : Session}
    {t : Template} (hs : s.EscapesAs escaping)
    (hrun : loadSource below source name s = .ok t s') : t.escaping = escaping := by
  obtain ⟨e, he, hescapes⟩ := hs
  unfold loadSource at hrun
  rw [bind_of_ok (theEngine_eq_ok he)] at hrun
  obtain ⟨text, s₁, -, hrun⟩ := bind_eq_ok_iff.1 hrun
  obtain ⟨key, s₂, -, hrun⟩ := bind_eq_ok_iff.1 hrun
  unfold templateFor at hrun
  cases hlookup : e.templates.lookup key with
  | some t' =>
    simp only [hlookup] at hrun
    obtain ⟨rfl, -⟩ := pure_eq_ok_iff.1 hrun
    obtain ⟨before, after, hsplit, -⟩ := List.lookup_eq_some_iff.1 hlookup
    exact hescapes.templates (key, t') (by simp [hsplit])
  | none =>
    simp only [hlookup] at hrun
    obtain ⟨found, s₃, -, hrun⟩ := bind_eq_ok_iff.1 hrun
    obtain ⟨t', s₄, hmake, hrun⟩ := bind_eq_ok_iff.1 hrun
    obtain ⟨-, s₅, -, hrun⟩ := bind_eq_ok_iff.1 hrun
    obtain ⟨rfl, -⟩ := pure_eq_ok_iff.1 hrun
    exact (escaping_of_makeTemplate hmake).trans hescapes.configuration

/-- Templates that are asked for by name escape as the engine does. -/
theorem escaping_of_loadTemplate {below : Below}
    (h : below.Oblivious (fun s s' => s' = s ∧ s.EscapesAs escaping) True) {name : String}
    {s s' : Session} {t : Template} (hs : s.EscapesAs escaping)
    (hrun : loadTemplate below name s = .ok t s') : t.escaping = escaping := by
  have hfind (e : Engine) : Oblivious (fun s s' => s' = s ∧ s.EscapesAs escaping)
      (e.loader.find below name) :=
    Loader.oblivious_find (isUnseen_escapesAs escaping).toIsHidden h name _
  obtain ⟨e, he, -⟩ := id hs
  unfold loadTemplate at hrun
  rw [bind_of_ok (theEngine_eq_ok he)] at hrun
  obtain ⟨found, s₁, hfound, hrun⟩ := bind_eq_ok_iff.1 hrun
  obtain ⟨known, s₂, hknown, hrun⟩ := bind_eq_ok_iff.1 hrun
  obtain ⟨-, rfl⟩ := liftFault_eq_ok_iff.1 hknown
  exact escaping_of_loadSource (Session.EscapesAs.of_eq_ok (hfind e) hs hfound) hrun

/-- **Included templates escape as the engine does.** -/
theorem escaping_of_loadPartial? {below : Below}
    (h : below.Oblivious (fun s s' => s' = s ∧ s.EscapesAs escaping) True) {name : String}
    {s s' : Session} {t : Template} (hs : s.EscapesAs escaping)
    (hrun : loadPartial? below name s = .ok (some t) s') : t.escaping = escaping := by
  have hfind (e : Engine) : Oblivious (fun s s' => s' = s ∧ s.EscapesAs escaping)
      (attempt .notFound (e.partialsLoader.find below name)) :=
    .attempt .notFound (Loader.oblivious_find (isUnseen_escapesAs escaping).toIsHidden h name _)
  obtain ⟨e, s₁, he, hrun⟩ := bind_eq_ok_iff.1 hrun
  obtain ⟨e', he', -⟩ := id hs
  rw [theEngine_eq_ok he'] at he
  obtain ⟨rfl, rfl⟩ := EStateM.Result.ok.inj he
  obtain ⟨found, s₂, hfound, hrun⟩ := bind_eq_ok_iff.1 hrun
  have hs₂ := Session.EscapesAs.of_eq_ok (hfind e') hs hfound
  cases found with
  | none =>
    obtain ⟨-, s₃, -, hrun⟩ := bind_eq_ok_iff.1 hrun
    obtain ⟨hnone, -⟩ := pure_eq_ok_iff.1 hrun
    simp at hnone
  | some found =>
    obtain ⟨known, s₃, hknown, hrun⟩ := bind_eq_ok_iff.1 hrun
    obtain ⟨-, rfl⟩ := liftFault_eq_ok_iff.1 hknown
    obtain ⟨t', s₄, hload, hrun⟩ := bind_eq_ok_iff.1 hrun
    obtain ⟨heq, -⟩ := pure_eq_ok_iff.1 hrun
    obtain rfl := Option.some.inj heq
    exact escaping_of_loadSource hs₂ hload

end

/-! ## Offers -/

section

variable {R : Session → Session → Prop} (hR : IsHidden R) {renders : Prop} {below : Below}
  (h : below.Oblivious R renders)

include hR h

theorem oblivious_checkLoader (option : String) (l : Loader) :
    Oblivious R (checkLoader below option l) := by
  have hcallable (v : Value) (name : String) : Oblivious R (hasCallable below v name) := by
    refine .bind (Value.oblivious_member? hR h v name) fun w => ?_
    cases w <;> exact .pure _
  unfold checkLoader
  split
  · exact .bind (hcallable _ _) fun _ => .ite (.pure _) (.throw _)
  · exact .pure _

theorem oblivious_asOffer (v : Value) : Oblivious R (v.asOffer below) := by
  unfold Value.asOffer
  split
  · refine .bind (Value.oblivious_member? hR h _ _) fun w => ?_
    split
    · exact .pure _
    · refine .bind (Value.oblivious_member hR h _ _) fun f =>
        .bind (Value.oblivious_call hR h (.inr areIdle_nil) f) fun _ =>
          .bind (.liftFault _) fun _ => ?_
      split
      · exact .pure _
      · exact .throw _
  · exact .pure _

theorem oblivious_storePartials (l : Loader) (partials : Value) :
    Oblivious R (storePartials below l partials) := by
  unfold storePartials
  dsimp only
  split
  · exact .bind (oblivious_asOffer hR h _) fun _ => .pure _
  · refine .bind (Value.oblivious_member? hR h _ _) fun f => ?_
    split
    · exact .throw _
    · have hcall := Value.oblivious_call hR h (.inr (areIdle_singleton partials))
      exact .guard (.bind (hcall _) fun _ => .pure _)
  · exact .throw _

end

/-! ## Operations -/

section

variable {escaping : Escaping}

/-- A session and itself have the same engine. -/
theorem oblivious_theEngine {P : Session → Prop} :
    Oblivious (fun s s' => s' = s ∧ P s) theEngine := by
  rintro _ s ⟨rfl, hs⟩
  cases he : s.engine with
  | none =>
    rw [theEngine_eq_error he]
    exact .error ⟨rfl, hs⟩
  | some e =>
    rw [theEngine_eq_ok he]
    exact .ok ⟨rfl, hs⟩

/-- Another configuration of the same escaping, by which nothing more is kept. -/
theorem oblivious_modifyEngine {f : Engine → Engine} (hescaping : ∀ e, (f e).escaping = e.escaping)
    (htemplates : ∀ e, (f e).templates ⊆ e.templates) :
    Oblivious (fun s s' => s' = s ∧ s.EscapesAs escaping) (modifyEngine f) := by
  rintro _ s ⟨rfl, e, he, hescapes⟩
  exact .ok ⟨rfl, f e, congrArg (Option.map f) he, (hescaping e).trans hescapes.configuration,
    fun entry hentry => hescapes.templates entry (htemplates e hentry)⟩

theorem Request.escapesAs (r : Request) {s : Session} (hs : s.EscapesAs escaping) :
    (sessionOf (r.act s)).EscapesAs escaping := by
  have hR := isUnseen_escapesAs escaping
  have hload (w : Wanted) : Oblivious (fun s s' => s' = s ∧ s.EscapesAs escaping) w.load := by
    cases w with
    | named name => exact .bind (hR.loadTemplate (hR.level depthLimit) name) fun _ => .pure _
    | included name => exact hR.loadPartial? (hR.level depthLimit) name
    | text source delims => exact .bind (hR.loadText source delims) fun _ => .pure _
  have hrender (t : Template) (data : Value) (locals : Entries) :
      Oblivious (fun s s' => s' = s ∧ s.EscapesAs escaping)
        (do pure (Answer.text (← t.render data locals))) := by
    refine .bind ?_ fun _ => .pure _
    rintro _ s ⟨rfl, hs⟩
    have hrun := hR.renderTemplate t (s.framed (framesFor (s.engineOf? t) data locals)) _ ⟨rfl, hs⟩
    exact hrun.withFrames fun hs => ⟨congrArg (Session.framed · _) hs.1, hs.2⟩
  have hact : Oblivious (fun s s' => s' = s ∧ s.EscapesAs escaping) r.act := by
    cases r with
    | load w =>
      refine .bind (hload w) fun t => ?_
      cases t <;> exact .pure _
    | render w data locals =>
      refine .bind (hload w) fun t => ?_
      cases t with
      | none => exact .pure _
      | some t => exact hrender t data locals
    | renderHeld t data locals => exact hrender t data locals
  exact hact.keeps hs

theorem Change.escapesAs (c : Change) {s : Session} (hs : s.EscapesAs escaping) :
    (sessionOf (c.apply s)).EscapesAs escaping := by
  have hR := isUnseen_escapesAs escaping
  have hground : ground.Oblivious (fun s s' => s' = s ∧ s.EscapesAs escaping) True :=
    hR.level depthLimit
  have hsame {f : Engine → Engine} (hescaping : ∀ e, (f e).escaping = e.escaping)
      (htemplates : ∀ e, (f e).templates = e.templates) :
      Oblivious (fun s s' => s' = s ∧ s.EscapesAs escaping) (modifyEngine f) :=
    oblivious_modifyEngine hescaping fun e => by rw [htemplates e]; exact List.Subset.refl _
  have happly : Oblivious (fun s s' => s' = s ∧ s.EscapesAs escaping) c.apply := by
    cases c with
    | loader l =>
      exact .bind (oblivious_checkLoader hR.toIsHidden hground _ l) fun _ =>
        hsame (fun _ => rfl) fun _ => rfl
    | partialsLoader l =>
      exact .bind (oblivious_checkLoader hR.toIsHidden hground _ l) fun _ =>
        hsame (fun _ => rfl) fun _ => rfl
    | partials v =>
      refine .bind oblivious_theEngine fun e =>
        .bind (oblivious_storePartials hR.toIsHidden hground _ v) fun stored => ?_
      obtain ⟨l, failure⟩ := stored
      refine .bind (hsame (fun _ => rfl) fun _ => rfl) fun _ => ?_
      cases failure with
      | none => exact .pure _
      | some fault => exact .throw _
    | helpers v => exact .bind (.liftFault _) fun _ => hsame (fun _ => rfl) fun _ => rfl
    | helper f =>
      exact .bind oblivious_theEngine fun e =>
        .bind (.liftFault _) fun _ => hsame (fun _ => rfl) fun _ => rfl
    | forget => exact oblivious_modifyEngine (fun _ => rfl) fun _ => List.nil_subset _
  exact happly.keeps hs

/-- An operation keeps it so. -/
theorem Operation.escapesAs (op : Operation) {s : Session} (hs : s.EscapesAs escaping) :
    (sessionOf (op.act s)).EscapesAs escaping := by
  cases op with
  | request r => exact r.escapesAs hs
  | change c =>
    have hkeeps := c.escapesAs hs
    rw [Operation.act_change]
    generalize c.apply s = result at hkeeps
    cases result <;> exact hkeeps

/-- **Whatever is done with an engine, it escapes as it has done**, and so does what it keeps. -/
theorem escapesAs_of_operations (ops : List Operation) {s : Session} (hs : s.EscapesAs escaping) :
    (ops.foldl (fun s op => sessionOf (op.act s)) s).EscapesAs escaping := by
  induction ops generalizing s with
  | nil => exact hs
  | cons op ops ih => exact ih (op.escapesAs hs)

end

end Mustache
