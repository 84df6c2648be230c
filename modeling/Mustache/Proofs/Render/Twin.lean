import Mustache.Proofs.Render.Boundary
import Mustache.Proofs.Render.Congruence
import Mustache.Proofs.Session.TwinCalls

/-!
# Rendering in twin sessions

What rendering looks at is the same in twin sessions: the frames, the configuration of the engine,
and the templates that are loaded on the way. So templates of the same source are rendered alike in
them, at every level.

## Main definitions

* `Mustache.Faithful` — a relation of stores in which templates are loaded alike.

## Main results

* `Mustache.agrees_renderNodes` — nodes, given that the next level renders alike.
* `Mustache.Faithful.agrees_level` — every level renders alike.
* `Mustache.Faithful.agrees_render` — a template with data.
-/

namespace Mustache

/-- **A relation of stores in which templates are loaded alike.** -/
structure Faithful (H : Store → Store → Prop) (known : String → Prop) : Prop where
  settings : ∀ a b, H a b → b.engine.map Engine.settings = a.engine.map Engine.settings
  texts : AgreesOnTexts H known
  partials : ∀ depth name, (level depth).Agrees H known →
    Agrees H known (Option.Rel Template.Twin) (loadPartial? (level depth) name)
      (loadPartial? (level depth) name)

variable {H : Store → Store → Prop} {known : String → Prop} (hfaithful : Faithful H known)

/-! ## The engine -/

/-- Of engines of the same configuration both have made a template, or none. -/
theorem isSome_filter_id {e e' : Option Engine}
    (h : e'.map Engine.settings = e.map Engine.settings) (id : Nat) :
    (e'.filter fun e => e.id == id).isSome = (e.filter fun e => e.id == id).isSome := by
  have hid (e : Option Engine) : (e.filter fun e => e.id == id).isSome =
      ((e.map Engine.settings).filter fun e => e.id == id).isSome := by
    cases e with
    | none => rfl
    | some e =>
      rw [Option.map_some, Option.filter_some, Option.filter_some]
      show _ = (if (e.id == id) = true then _ else _ : Option Engine).isSome
      split <;> rfl
  rw [hid e', hid e, h]

/-- The engine of a template is there if one of the same configuration is. -/
theorem engineOf_eq_of_some {t : Template} {s : Session} {e : Engine}
    (h : s.engineOf? t = some e) : engineOf t s = .ok e s := by
  unfold engineOf
  rw [get_bind, h]
  rfl

theorem engineOf_eq_of_none {t : Template} {s : Session} (h : s.engineOf? t = none) :
    engineOf t s = .error (.engineGone t.name) s := by
  unfold engineOf
  rw [get_bind, h]
  rfl

theorem exists_engineOf_eq {t : Template} {s s' : Session} (hkept : s.Kept s') {e : Engine}
    (hengine : s'.engine = some e) (hid : t.engine = e.id) : ∃ e', engineOf t s = .ok e' s := by
  have hsame := isSome_filter_id hkept.engine t.engine
  rw [hengine, Option.filter_some, if_pos (by simp [hid]), Option.isSome_some] at hsame
  obtain ⟨e', he'⟩ := Option.isSome_iff_exists.1 hsame.symm
  exact ⟨e', engineOf_eq_of_some he'⟩

include hfaithful in
/-- The engine of a template is there in both of two twin sessions, or in none. -/
theorem agrees_engineOf {t t' : Template} (ht : t.Twin t') :
    Agrees H known (fun _ _ => True) (engineOf t) (engineOf t') := by
  refine ⟨keeps_engineOf t, fun s s' htwin _ => ?_⟩
  have hsame : (s'.engineOf? t').isSome = (s.engineOf? t).isSome := by
    unfold Session.engineOf?
    rw [ht.engine]
    exact isSome_filter_id (hfaithful.settings _ _ htwin.store) t.engine
  cases he : s.engineOf? t with
  | some e =>
    rw [he, Option.isSome_some, Option.isSome_iff_exists] at hsame
    obtain ⟨e', he'⟩ := hsame
    rw [engineOf_eq_of_some he, engineOf_eq_of_some he']
    exact .ok trivial htwin
  | none =>
    rw [he, Option.isSome_none, Option.isSome_eq_false_iff, Option.isNone_iff_eq_none] at hsame
    rw [engineOf_eq_of_none he, engineOf_eq_of_none hsame]
    exact .error (.engineGone _ _) htwin

/-! ## Nodes -/

/-- What a value is written as does not depend on the name of the template. -/
theorem Template.Twin.write {t t' : Template} (ht : t.Twin t') (v : Value) (place : Place)
    (name : String) (delims : Delimiters) : ResultRel Fault.SameSort Eq
      (v.write (t.occasion place name delims)) (v.write (t'.occasion place name delims)) := by
  unfold Value.write
  split
  all_goals try exact .refl .refl (fun _ => rfl) _
  split
  · exact .error (Fault.sameSort_unrenderable ht.name)
  · exact .refl .refl (fun _ => rfl) _

/-- The parts of rendering end alike in twin sessions. -/
theorem Below.Agrees.rendering {below : Below} (h : below.Agrees H known)
    (hfaithful : Faithful H known) {t t' : Template} (ht : t.Twin t') :
    Rendering Fault.SameSort Eq (fun Q => Mustache.Agrees H known Q) below below t t' := by
  refine .of_same Agrees.tolerance.toCongruence ht.source (fun hact => ?_) (fun next next' hnext =>
    .getFrames (fun frames => next frames.length) (fun frames => next' frames.length) fun _ =>
      hnext _) ht.write (agrees_findFiltered h hfaithful.texts ht)
    (Value.agrees_callLambda h hfaithful.texts) (agrees_load_render h hfaithful.texts)
    (fun escaped text => ?_) fun frame _ _ hact => hact.withFrame frame
  · exact .bindOn (agrees_engineOf hfaithful ht) (fun _ => hact.keeps) fun _ _ _ => hact
  · rw [ht.escaping]
    exact Agrees.tolerance.escapeText below below _ (fun f _ =>
      Value.agrees_call h hfaithful.texts f _) text

include hfaithful in
/-- Included templates are loaded alike, and rendered alike a level deeper. -/
theorem agrees_renderInclusion {depth : Nat} (h : (level depth).Agrees H known) {t t' : Template}
    (ht : t.Twin t') (name indent : String) :
    Agrees H known Eq (renderInclusion (level depth) t name indent)
      (renderInclusion (level depth) t' name indent) := by
  let act (included : Option Template) : Action Output :=
    included.elim (pure Output.empty) fun included => do
      pure (some (indentLines (← (level depth).render included) indent))
  have hkeeps (included : Option Template) : Keeps (act included) := by
    cases included with
    | none => exact .pure _
    | some t => exact .bind (h.keeps.render t) fun _ => .pure _
  have hload : Agrees H known Eq (loadPartial? (level depth) name >>= act)
      (loadPartial? (level depth) name >>= act) := by
    refine .bindOn (hfaithful.partials depth name h) hkeeps fun t t' ht => ?_
    cases ht with
    | none => exact .pure rfl
    | some ht => exact .bind (h.render ht) fun _ => .pure rfl
  have hrun (t : Template) : renderInclusion (level depth) t name indent =
      engineOf t >>= fun _ => loadPartial? (level depth) name >>= act := by
    refine congrArg (engineOf t >>= ·) (funext fun _ =>
      congrArg (loadPartial? (level depth) name >>= ·) (funext fun included => ?_))
    cases included <;> rfl
  rw [hrun, hrun]
  exact .bindOn (agrees_engineOf hfaithful ht) (fun _ => hload.keeps) fun _ _ _ => hload

include hfaithful in
/-- **Nodes are rendered alike in twin sessions.** -/
theorem agrees_renderNodes {depth : Nat} (h : (level depth).Agrees H known) {t t' : Template}
    (ht : t.Twin t') (ns : List Node) :
    Agrees H known Eq (renderNodes (level depth) t ns) (renderNodes (level depth) t' ns) :=
  Agrees.tolerance.renderNodes (h.rendering hfaithful ht) (agrees_renderInclusion hfaithful h ht) ns

/-! ## Levels and templates -/

/-- Other frames are put in the place of those of the session, which come back. -/
theorem Agrees.withFrames {α : Type} {Q : α → α → Prop} {act act' : Action α}
    (h : Agrees H known Q act act') (frames : List Value) :
    Agrees H known Q (withFrames frames act) (withFrames frames act') := by
  refine ⟨h.keeps.withFrames frames, fun s s' htwin hasked => ?_⟩
  have hinner := h.outcome { s with frames } { s' with frames }
    ⟨rfl, htwin.tallies, htwin.nextId, htwin.store⟩
  unfold Mustache.withFrames at hasked ⊢
  generalize act { s with frames } = r at hinner hasked ⊢
  generalize act' { s' with frames } = r' at hinner ⊢
  cases r with
  | ok a s₁ =>
    cases hinner hasked with
    | ok answers sessions =>
      exact .ok answers ⟨htwin.frames, sessions.tallies, sessions.nextId, sessions.store⟩
  | error e s₁ =>
    cases hinner hasked with
    | error faults sessions =>
      exact .error faults ⟨htwin.frames, sessions.tallies, sessions.nextId, sessions.store⟩
    | unwritten unwritten => exact .unwritten unwritten

namespace Faithful

include hfaithful

theorem agrees_renderBody {depth : Nat} (h : (level depth).Agrees H known) {t t' : Template}
    (ht : t.Twin t') :
    Agrees H known Eq (renderBody (level depth) t) (renderBody (level depth) t') :=
  Agrees.tolerance.renderBody (h.rendering hfaithful ht) (agrees_renderInclusion hfaithful h ht)
    ht.tree

/-- **Every level renders alike in twin sessions.**

**Proof sketch.** Induction on the depth: at depth zero nothing but a fault happens, and what a
level does it does by actions of its own and of the level below. -/
theorem agrees_level (depth : Nat) : (level depth).Agrees H known := by
  induction depth with
  | zero => exact ⟨fun _ => .fault _, fun _ _ _ => .fault _⟩
  | succ depth ih =>
    exact ⟨hfaithful.agrees_renderBody ih, Callable.agrees_invoke ih hfaithful.texts⟩

/-- **A template with data is rendered alike in twin sessions.** -/
theorem agrees_render {t t' : Template} (ht : t.Twin t') (data : Value) (locals : Entries) :
    Agrees H known Eq (t.render data locals) (t'.render data locals) := by
  have hbody : Agrees H known Eq (renderTemplate t) (renderTemplate t') :=
    hfaithful.agrees_renderBody (hfaithful.agrees_level depthLimit) ht
  refine ⟨.bind .get fun s => hbody.keeps.withFrames _, fun s s' htwin hasked => ?_⟩
  have hrun (s : Session) (t : Template) : t.render data locals s =
      withFrames (framesFor (s.engineOf? t) data locals) (renderTemplate t) s := rfl
  rw [hrun] at hasked
  rw [hrun, hrun, framesFor_of_settings (hfaithful.settings _ _ htwin.store) ht.engine]
  exact (hbody.withFrames _).outcome s s' htwin hasked

end Faithful

end Mustache
