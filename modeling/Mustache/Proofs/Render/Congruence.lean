import Mustache.Proofs.Session.Traversal
import Mustache.Render

/-!
# Relations that rendering respects

What holds of the parts of rendering holds of all nodes: of names and filters, lambdas, escaping,
included templates, and of what is done while a frame is on top. For a relation of actions that
calls respect, this is shown here once, by induction on the nodes of a template.

How templates are included is a parameter, so that two ways to do so can be related.

## Main definitions

* `Mustache.renderNodesWith` — nodes, given how templates are included.
* `Mustache.Rendering` — parts of rendering that are related.

## Main results

* `Mustache.renderNodesWith_renderInclusion` — nodes as ever.
* `Mustache.Congruence.renderLambda`, `Mustache.Congruence.escapeText` — lambdas and escaping.
* `Mustache.Congruence.renderNodesWith`, `Mustache.Congruence.renderNodes` — nodes.
-/

namespace Mustache

/-! ## How templates are included -/

section

variable (include? : String → String → Action Output) (below : Below) (t : Template)

mutual

/-- A node, given how templates are included. -/
def renderNodeWith : Node → Action Output
  | .text _ value => pure (some value)
  | .interpolation place name escaped filters delims =>
    renderInterpolation below t place name escaped filters delims
  | .block head body => renderSection below t head (renderNodesWith body)
  | .inclusion _ name indent => include? name indent
  | .comment _ _ | .delimiterChange _ _ | .pragma _ _ => pure Output.empty
  | .flawed flaw => renderFlawed flaw

/-- Nodes in order, given how templates are included. -/
def renderNodesWith : List Node → Action Output
  | [] => pure Output.empty
  | n :: ns => do
    let first ← renderNodeWith n
    let others ← renderNodesWith ns
    pure (first.append others)

end

end

mutual

theorem renderNodeWith_renderInclusion (below : Below) (t : Template) :
    (n : Node) → renderNodeWith (renderInclusion below t) below t n = renderNode below t n
  | .text _ _ => rfl
  | .interpolation _ _ _ _ _ => rfl
  | .block head body =>
    congrArg (renderSection below t head) (renderNodesWith_renderInclusion below t body)
  | .inclusion _ _ _ => rfl
  | .comment _ _ => rfl
  | .delimiterChange _ _ => rfl
  | .pragma _ _ => rfl
  | .flawed _ => rfl

/-- **Nodes as ever**: templates are included as they are. -/
theorem renderNodesWith_renderInclusion (below : Below) (t : Template) :
    (ns : List Node) → renderNodesWith (renderInclusion below t) below t ns = renderNodes below t ns
  | [] => rfl
  | n :: ns => by
    rw [renderNodesWith, renderNodes, renderNodeWith_renderInclusion below t n,
      renderNodesWith_renderInclusion below t ns]

end

/-! ## Parts of rendering -/

/-- A lambda at a depth of frames: it is called, and the text that it returns is rendered. -/
def renderLambdaAt (below : Below) (f : Value) (text : String) (tag : Option String)
    (depth : Nat) : Action String := do
  let helper := Value.helper (← freshId) depth tag
  let result ← f.callLambda below [.text text, helper]
  let source ← liftFault (result.write {})
  loadText source tag >>= below.render

theorem renderLambda_eq (below : Below) (t : Template) (f : Value) (text : String)
    (delims : Delimiters) : renderLambda below t f text delims = (do
      let _ ← engineOf t
      renderLambdaAt below f text delims.changeTag? (← get).frames.length) :=
  rfl

/-- What a value is written for, between the delimiters of a tag. -/
def Template.occasion (t : Template) (place : Place) (name : String) (delims : Delimiters) :
    Value.Occasion :=
  { expression := some (delims.opening ++ name ++ delims.closing)
    templateName := t.name
    line := some (place.line : Int) }

/-- **Parts of rendering that are related**, for two templates of the same source. -/
structure Rendering (F : Fault → Fault → Prop) (V : Value → Value → Prop)
    (Rel : {α : Type} → (α → α → Prop) → Action α → Action α → Prop) (below below' : Below)
    (t t' : Template) : Prop where
  source : t'.source = t.source
  engine : ∀ {act act' : Action String}, Rel Eq act act' →
    Rel Eq (engineOf t >>= fun _ => act) (engineOf t' >>= fun _ => act')
  depth : ∀ next next' : Nat → Action String, (∀ n, Rel Eq (next n) (next' n)) →
    Rel Eq (get >>= fun s => next s.frames.length) (get >>= fun s => next' s.frames.length)
  plain : ∀ {v w}, V v w → ResultRel F Eq (v.write {}) (w.write {})
  write : ∀ {v w}, V v w → ∀ place name delims,
    ResultRel F Eq (v.write (t.occasion place name delims))
      (w.write (t'.occasion place name delims))
  find : ∀ name filters place,
    Rel V (findFiltered below ⟨name, filters, place, t.name, t.source⟩)
      (findFiltered below' ⟨name, filters, place, t'.name, t'.source⟩)
  call : ∀ {f g}, V f g → ∀ text {helper helper'}, V helper helper' →
    Rel V (f.callLambda below [.text text, helper]) (g.callLambda below' [.text text, helper'])
  text : ∀ text delims, Rel Eq (loadText text delims >>= below.render)
    (loadText text delims >>= below'.render)
  escape : ∀ (escaped : Bool) text,
    Rel Eq (escapeText below (if escaped then t.escaping else .off) text)
      (escapeText below' (if escaped then t'.escaping else .off) text)
  frame : ∀ {v w}, V v w → ∀ {act act' : Action Output}, Rel Eq act act' →
    Rel Eq (withFrame v act) (withFrame w act')

/-- Parts of rendering with the same values on both sides. -/
theorem Rendering.of_same {F : Fault → Fault → Prop}
    {Rel : {α : Type} → (α → α → Prop) → Action α → Action α → Prop} {below below' : Below}
    {t t' : Template} (h : Congruence F Eq Rel) (source : t'.source = t.source)
    (engine : ∀ {act act' : Action String}, Rel Eq act act' →
      Rel Eq (engineOf t >>= fun _ => act) (engineOf t' >>= fun _ => act'))
    (depth : ∀ next next' : Nat → Action String, (∀ n, Rel Eq (next n) (next' n)) →
      Rel Eq (get >>= fun s => next s.frames.length) (get >>= fun s => next' s.frames.length))
    (write : ∀ (v : Value) place name delims, ResultRel F Eq
      (v.write (t.occasion place name delims)) (v.write (t'.occasion place name delims)))
    (find : ∀ name filters place,
      Rel Eq (findFiltered below ⟨name, filters, place, t.name, t.source⟩)
        (findFiltered below' ⟨name, filters, place, t'.name, t'.source⟩))
    (call : ∀ (f : Value) args, Rel Eq (f.callLambda below args) (f.callLambda below' args))
    (text : ∀ text delims, Rel Eq (loadText text delims >>= below.render)
      (loadText text delims >>= below'.render))
    (escape : ∀ (escaped : Bool) text,
      Rel Eq (escapeText below (if escaped then t.escaping else .off) text)
        (escapeText below' (if escaped then t'.escaping else .off) text))
    (frame : ∀ v {act act' : Action Output}, Rel Eq act act' →
      Rel Eq (withFrame v act) (withFrame v act')) : Rendering F Eq Rel below below' t t' where
  source := source
  engine := engine
  depth := depth
  plain hv := hv ▸ .refl h.sameFault (fun _ => rfl) _
  write hv := hv ▸ write _
  find := find
  call hf _ _ _ hhelper := hf ▸ hhelper ▸ call _ _
  text := text
  escape := escape
  frame hv _ _ hact := hv ▸ frame _ hact

namespace Congruence

variable {F : Fault → Fault → Prop} {V : Value → Value → Prop}
  {Rel : {α : Type} → (α → α → Prop) → Action α → Action α → Prop} (h : Congruence F V Rel)
  {below below' : Below} {t t' : Template}

include h

/-- **A text is escaped**, given what a callable answers. -/
theorem escapeText (below below' : Below) (escaping : Escaping)
    (hcall : ∀ (f : Value) text, Rel V (f.call below [.text text]) (f.call below' [.text text]))
    (text : String) :
    Rel Eq (escapeText below escaping text) (escapeText below' escaping text) := by
  refine h.ite (h.same _) ?_
  split
  · exact h.same _
  · split
    · exact h.same _
    · exact h.fault _
  · refine h.bind .value (hcall _ _) fun v w hv => ?_
    cases h.shape hv with
    | same => cases v <;> exact h.same _
    | _ => exact h.same _

theorem renderFlawed (flaw : Flaw) : Rel Eq (renderFlawed flaw) (renderFlawed flaw) := by
  cases flaw with
  | lacking => exact h.fault _
  | wrongKind => exact h.fault _
  | notText => exact h.same _

variable (hparts : Rendering F V Rel below below' t t')

include hparts

/-- **A lambda is called**, and the text that it returns is rendered. -/
theorem renderLambda {f g : Value} (hf : V f g) (text : String) (delims : Delimiters) :
    Rel Eq (renderLambda below t f text delims) (renderLambda below' t' g text delims) := by
  have hat (depth : Nat) : Rel Eq (renderLambdaAt below f text delims.changeTag? depth)
      (renderLambdaAt below' g text delims.changeTag? depth) :=
    h.bind .number h.freshId fun _ _ hnew =>
      h.bind .value (hparts.call hf text (hnew.helper _ _)) fun _ _ hv =>
      h.bindSame (h.liftFault .same (hparts.plain hv)) fun _ => hparts.text _ _
  rw [renderLambda_eq, renderLambda_eq]
  exact hparts.engine (hparts.depth _ _ hat)

theorem renderInterpolation (place : Place) (name : String) (escaped : Bool)
    (filters : List String) (delims : Delimiters) :
    Rel Eq (renderInterpolation below t place name escaped filters delims)
      (renderInterpolation below' t' place name escaped filters delims) := by
  refine h.bind .value (hparts.find name filters place) fun v w hv => ?_
  rw [h.isLambda hv]
  exact h.ite
    (h.bindSame (h.renderLambda hparts hv name delims) fun _ => hparts.escape _ _)
    (h.bindSame (h.liftFault .same (hparts.write hv place name delims)) fun _ => hparts.escape _ _)

/-- Every item is the topmost frame while it is rendered. -/
theorem renderItems {act act' : Action Output} (hact : Rel Eq act act') {items items' : List Value}
    (hitems : List.Forall₂ V items items') :
    Rel Eq (renderItems act items) (renderItems act' items') := by
  induction hitems with
  | nil => exact h.same _
  | cons hitem _ ih =>
    exact h.bindSame (hparts.frame hitem hact) fun _ => h.bindSame ih fun _ => h.same _

theorem renderSection (head : Section) {body body' : Action Output} (hbody : Rel Eq body body') :
    Rel Eq (renderSection below t head body) (renderSection below' t' head body') := by
  refine h.bind .value (hparts.find _ _ _) fun v w hv => ?_
  rw [(h.shape hv).truth_eq, h.isLambda hv, hparts.source]
  refine h.ite ?_ (h.ite ?_ ?_)
  · exact h.bindSame (h.result _) fun _ => h.ite (h.same _) hbody
  · exact h.bindSame (h.renderLambda hparts hv _ _) fun _ => h.same _
  · exact h.bindSame (h.result _) fun _ =>
      h.ite (h.renderItems hparts hbody (h.items hv)) (h.same _)

end Congruence

/-! ## Nodes -/

section

variable {F : Fault → Fault → Prop} {V : Value → Value → Prop}
  {Rel : {α : Type} → (α → α → Prop) → Action α → Action α → Prop} {below below' : Below}
  {t t' : Template} {include? include?' : String → String → Action Output}

mutual

theorem Congruence.renderNodeWith (h : Congruence F V Rel)
    (hparts : Rendering F V Rel below below' t t')
    (hinclude : ∀ name indent, Rel Eq (include? name indent) (include?' name indent)) :
    (n : Node) →
      Rel Eq (renderNodeWith include? below t n) (renderNodeWith include?' below' t' n)
  | .text _ _ => h.same _
  | .interpolation _ _ _ _ _ => h.renderInterpolation hparts _ _ _ _ _
  | .block head body => h.renderSection hparts head (h.renderNodesWith hparts hinclude body)
  | .inclusion _ name indent => hinclude name indent
  | .comment _ _ => h.same _
  | .delimiterChange _ _ => h.same _
  | .pragma _ _ => h.same _
  | .flawed flaw => h.renderFlawed flaw

/-- **Nodes are related** if the parts of rendering are, and included templates.

**Proof sketch.** Induction on the nodes. A section is made of what is between its tags. -/
theorem Congruence.renderNodesWith (h : Congruence F V Rel)
    (hparts : Rendering F V Rel below below' t t')
    (hinclude : ∀ name indent, Rel Eq (include? name indent) (include?' name indent)) :
    (ns : List Node) →
      Rel Eq (renderNodesWith include? below t ns) (renderNodesWith include?' below' t' ns)
  | [] => h.same _
  | n :: ns => h.bindSame (h.renderNodeWith hparts hinclude n) fun _ =>
      h.bindSame (h.renderNodesWith hparts hinclude ns) fun _ => h.same _

end

variable (h : Congruence F V Rel) (hparts : Rendering F V Rel below below' t t')
  (hinclude : ∀ name indent,
    Rel Eq (renderInclusion below t name indent) (renderInclusion below' t' name indent))

include h hparts hinclude

theorem Congruence.renderNode (n : Node) :
    Rel Eq (renderNode below t n) (renderNode below' t' n) := by
  rw [← renderNodeWith_renderInclusion, ← renderNodeWith_renderInclusion]
  exact h.renderNodeWith hparts hinclude n

/-- **Nodes as ever.** -/
theorem Congruence.renderNodes (ns : List Node) :
    Rel Eq (renderNodes below t ns) (renderNodes below' t' ns) := by
  rw [← renderNodesWith_renderInclusion, ← renderNodesWith_renderInclusion]
  exact h.renderNodesWith hparts hinclude ns

/-- **The nodes of a template.** -/
theorem Congruence.renderBody (htree : t'.tree = t.tree) :
    Rel Eq (renderBody below t) (renderBody below' t') := by
  unfold Mustache.renderBody
  rw [htree]
  refine h.bindSame (h.renderNodes hparts hinclude _) fun out => ?_
  split
  · exact h.same _
  · exact h.fault _

end

end Mustache
