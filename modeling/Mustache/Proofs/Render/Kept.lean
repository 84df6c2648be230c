import Mustache.Proofs.Render.Congruence
import Mustache.Proofs.Session.Load

/-!
# What rendering keeps

Rendering pushes frames for sections and takes them off again, and has templates loaded on the
way. At every level it leaves the frames and the configuration of the engine as they are, whether
it ends well or in a fault.

## Main results

* `Mustache.keeps_renderNodes` — nodes, given that the next level keeps both.
* `Mustache.keeps_level` — every level keeps both.
* `Mustache.keeps_renderTemplate` — a template in the frames that are there.
-/

namespace Mustache

section

variable {below : Below} (h : below.Keeps)

include h

theorem keeps_escapeText (escaping : Escaping) (text : String) :
    Keeps (escapeText below escaping text) :=
  Keeps.tolerance.escapeText below below escaping (fun f _ => Value.keeps_call h f _) text

/-- The parts of rendering keep the frames and the configuration. -/
theorem Below.Keeps.rendering (t : Template) :
    Rendering Eq Eq (fun _ act _ => Mustache.Keeps act) below below t t :=
  .of_same Keeps.tolerance.toCongruence rfl (fun hact => .bind (keeps_engineOf t) fun _ => hact)
    (fun _ _ hnext => .bind .get fun _ => hnext _)
    (fun _ _ _ _ => .refl (fun _ => rfl) (fun _ => rfl) _) (fun _ _ _ => keeps_findFiltered h _)
    (Value.keeps_callLambda h) (fun _ _ => .bind (keeps_loadText _ _) h.render)
    (fun _ _ => keeps_escapeText h _ _) fun frame _ _ hact => .withFrame hact frame

theorem keeps_renderLambda (t : Template) (f : Value) (text : String) (delims : Delimiters) :
    Keeps (renderLambda below t f text delims) :=
  Keeps.tolerance.renderLambda (h.rendering t) rfl text delims

theorem keeps_renderInclusion (t : Template) (name indent : String) :
    Keeps (renderInclusion below t name indent) := by
  refine .bind (keeps_engineOf t) fun _ => .bind (keeps_loadPartial? h name) fun included => ?_
  split
  · exact .pure _
  · exact .bind (h.render _) fun _ => .pure _

theorem keeps_renderNode (t : Template) (n : Node) : Keeps (renderNode below t n) :=
  Keeps.tolerance.renderNode (h.rendering t) (keeps_renderInclusion h t) n

theorem keeps_renderNodes (t : Template) (ns : List Node) : Keeps (renderNodes below t ns) :=
  Keeps.tolerance.renderNodes (h.rendering t) (keeps_renderInclusion h t) ns

theorem keeps_renderBody (t : Template) : Keeps (renderBody below t) :=
  Keeps.tolerance.renderBody (h.rendering t) (keeps_renderInclusion h t) rfl

end

/-- **Every level keeps the frames and the configuration.**

**Proof sketch.** Induction on the depth: at depth zero nothing but a fault happens, and what a
level does it does by actions of its own and of the level below. -/
theorem keeps_level (depth : Nat) : (level depth).Keeps := by
  induction depth with
  | zero => exact ⟨fun _ => .throw _, fun _ _ _ => .throw _⟩
  | succ depth ih => exact ⟨keeps_renderBody ih, Callable.keeps_invoke ih⟩

/-- The frames of the session come back. -/
theorem Keeps.withFrames {α : Type} {act : Action α} (h : Keeps act) (frames : List Value) :
    Keeps (withFrames frames act) := by
  intro s
  have hs := h { s with frames }
  unfold Mustache.withFrames
  cases hact : act { s with frames } with
  | ok a s' =>
    rw [hact] at hs
    exact ⟨rfl, hs.engine, hs.asked, hs.counts⟩
  | error e s' =>
    rw [hact] at hs
    exact ⟨rfl, hs.engine, hs.asked, hs.counts⟩

/-- Rendering a template keeps the frames and the configuration. -/
theorem keeps_renderTemplate (t : Template) : Keeps (renderTemplate t) :=
  keeps_renderBody (keeps_level depthLimit) t

theorem Template.keeps_render (t : Template) (data : Value) (locals : Entries) :
    Keeps (t.render data locals) :=
  .bind .get fun _ => (keeps_renderTemplate t).withFrames _

end Mustache
