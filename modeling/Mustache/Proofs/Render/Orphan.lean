import Mustache.Proofs.Render.EscapesAs
import Mustache.Proofs.Render.Shadowed

/-!
# Templates that outlive their engine

How values are escaped, the source and the delimiters are part of a template, so it can be rendered
when its engine is gone. The engine is needed where a lambda is to be called and where another
template is to be included. A rendering is followed here up to the first such point. What comes
before it does not depend on the engine: without one the rendering fails at that very point, and if
there is no such point it ends as it does with an engine.

## Main definitions

* `Mustache.Need` — what a template cannot do without its engine.
* `Mustache.advanceNodes` — nodes up to the first need.
* `Mustache.Advances` — a rendering and what comes of it up to the first need.
* `Mustache.IsAloof` — differences between sessions that do not touch the frames.
* `Mustache.Template.advance` — a template with data up to the first need.
* `Mustache.Template.IsLoaded` — templates that an engine loads.

## Main results

* `Mustache.advances_renderNodes` — nodes are rendered up to the first need and on from there.
* `Mustache.oblivious_advanceNodes` — what comes before the first need does not depend on the
  engine.
* `Mustache.Template.render_without_engine` — a template without its engine, and with one.
-/

namespace Mustache

/-! ## Rendering up to the first need -/

/-- What a template cannot do without its engine. -/
inductive Need where
  /-- Calling a lambda with a text, and rendering what it answers. -/
  | lambda (f : Value) (text : String) (delims : Delimiters)
  /-- Including another template. -/
  | inclusion (name indent : String)

/-- Meets a need. -/
def Need.meet (below : Below) (t : Template) : Need → Action Output
  | lambda f text delims => do pure (some (← renderLambda below t f text delims))
  | inclusion name indent => renderInclusion below t name indent

/-- The point at which a need arises. -/
structure Halt where
  need : Need
  /-- The frames at this point. -/
  frames : List Value

/-- How far a rendering gets: to the first need, or to the end with an output. -/
abbrev Advance := Except Halt Output

/-- Stops where a need arises. -/
def haltFor (need : Need) : Action Advance := do pure (.error ⟨need, (← get).frames⟩)

/-- Goes on with an output, if the end has been reached. -/
def unlessHalted (adv : Action Advance) (next : Output → Action Advance) : Action Advance := do
  match ← adv with
  | .error halt => pure (.error halt)
  | .ok out => next out

/-- What does not need the engine. -/
def complete (act : Action Output) : Action Advance := do pure (.ok (← act))

/-- An interpolation up to its need. -/
def advanceInterpolation (below : Below) (t : Template) (place : Place) (name : String)
    (escaped : Bool) (filters : List String) (delims : Delimiters) : Action Advance := do
  let v ← findFiltered below ⟨name, filters, place, t.name, t.source⟩
  if v.isLambda then haltFor (.lambda v name delims)
  else
    let text ← liftFault (v.write
      { expression := some (delims.opening ++ name ++ delims.closing)
        templateName := t.name
        line := some (place.line : Int) })
    complete (escapeText below (if escaped then t.escaping else .off) text)

/-- Items up to the first need, each item being the topmost frame meanwhile. -/
def advanceItems (adv : Action Advance) : List Value → Action Advance
  | [] => pure (.ok Output.empty)
  | item :: items =>
    unlessHalted (withFrame item adv) fun first =>
      unlessHalted (advanceItems adv items) fun others => pure (.ok (first.append others))

/-- A section up to the first need, given how far one gets between its tags. -/
def advanceSection (below : Below) (t : Template) (head : Section) (body : Action Advance) :
    Action Advance := do
  let v ← findFiltered below ⟨head.name, head.filters, head.place, t.name, t.source⟩
  if head.inverted then
    if ← liftFault v.truth then pure (.ok Output.empty) else body
  else if v.isLambda then haltFor (.lambda v (head.rawBody t.source) head.delims)
  else if ← liftFault v.truth then advanceItems body v.items
  else pure (.ok Output.empty)

mutual

/-- A node up to the first need. -/
def advanceNode (below : Below) (t : Template) : Node → Action Advance
  | .text _ value => pure (.ok (some value))
  | .interpolation place name escaped filters delims =>
    advanceInterpolation below t place name escaped filters delims
  | .block head body => advanceSection below t head (advanceNodes below t body)
  | .inclusion _ name indent => haltFor (.inclusion name indent)
  | .comment _ _ | .delimiterChange _ _ | .pragma _ _ => pure (.ok Output.empty)
  | .flawed flaw => complete (renderFlawed flaw)

/-- Nodes in order, up to the first need. -/
def advanceNodes (below : Below) (t : Template) : List Node → Action Advance
  | [] => pure (.ok Output.empty)
  | n :: ns =>
    unlessHalted (advanceNode below t n) fun first =>
      unlessHalted (advanceNodes below t ns) fun others => pure (.ok (first.append others))

end

/-! ## On from the first need -/

/-- How a rendering ends that gets as far as is said: as it is said, if it gets to the end. If a
need arises, it ends in the fault in which meeting the need ends. -/
inductive EndsOn (below : Below) (t : Template) (frames : List Value) :
    EStateM.Result Fault Session Advance → EStateM.Result Fault Session Output → Prop
  | ok {out : Output} {s : Session} : EndsOn below t frames (.ok (.ok out) s) (.ok out s)
  | error {e : Fault} {s : Session} : EndsOn below t frames (.error e s) (.error e s)
  | halt {halt : Halt} {s : Session} {r : EStateM.Result Fault Session Output}
    (fault : ∀ e s', halt.need.meet below t (s.framed halt.frames) = .error e s' →
      r = .error e (s'.framed frames)) : EndsOn below t frames (.ok (.error halt) s) r

/-- **A rendering gets as far as is said**, from every session, and leaves the frames as they
are. -/
structure Advances (below : Below) (t : Template) (adv : Action Advance) (act : Action Output) :
    Prop where
  keeps : Keeps act
  ends : ∀ s, EndsOn below t s.frames (adv s) (act s)

namespace Advances

variable {below : Below} {t : Template}

theorem complete {act : Action Output} (h : Keeps act) :
    Advances below t (complete act) act where
  keeps := h
  ends s := by
    unfold Mustache.complete
    cases hrun : act s with
    | ok out s' =>
      rw [bind_of_ok hrun]
      exact .ok
    | error e s' =>
      rw [bind_of_error hrun]
      exact .error

theorem done (out : Output) : Advances below t (pure (.ok out)) (pure out) where
  keeps := .pure out
  ends _ := .ok

/-- What needs no engine comes first. -/
theorem after {α : Type} {act : Action α} (h : Keeps act) {adv : α → Action Advance}
    {next : α → Action Output} (hnext : ∀ a, Advances below t (adv a) (next a)) :
    Advances below t (act >>= adv) (act >>= next) where
  keeps := .bind h fun a => (hnext a).keeps
  ends s := by
    have hframes := (h s).frames
    cases hrun : act s with
    | ok a s' =>
      rw [hrun] at hframes
      rw [bind_of_ok hrun, bind_of_ok hrun, ← show s'.frames = s.frames from hframes]
      exact (hnext a).ends s'
    | error e s' =>
      rw [bind_of_error hrun, bind_of_error hrun]
      exact .error

theorem ite {c : Prop} [Decidable c] {adv adv' : Action Advance} {act act' : Action Output}
    (h : Advances below t adv act) (h' : Advances below t adv' act') :
    Advances below t (if c then adv else adv') (if c then act else act') := by
  split
  · exact h
  · exact h'

/-- A need arises, and what follows once it is met is left out. -/
theorem halt {need : Need} {act : Action Output} (hkeeps : Keeps act)
    (hfault : ∀ s e s', need.meet below t s = .error e s' → act s = .error e s') :
    Advances below t (haltFor need) act where
  keeps := hkeeps
  ends s := .halt fun e s' hmeet => by
    have hrun := hfault s e s' hmeet
    have hframes := (hkeeps s).frames
    rw [hrun] at hframes
    rw [hrun, ← show s'.frames = s.frames from hframes]
    rfl

/-- One output after the other: a need that arises in the first rendering ends the second one. -/
theorem bind {adv : Action Advance} {act : Action Output} (h : Advances below t adv act)
    {adv' : Output → Action Advance} {next : Output → Action Output}
    (hnext : ∀ out, Advances below t (adv' out) (next out)) :
    Advances below t (unlessHalted adv adv') (act >>= next) where
  keeps := .bind h.keeps fun out => (hnext out).keeps
  ends s := by
    have hends := h.ends s
    have hframes := (h.keeps s).frames
    unfold unlessHalted
    generalize hadv : adv s = r at hends
    generalize hact : act s = r' at hends
    cases hends with
    | @ok out s' =>
      rw [hact] at hframes
      rw [bind_of_ok hadv, bind_of_ok hact, ← show s'.frames = s.frames from hframes]
      exact (hnext out).ends s'
    | error =>
      rw [bind_of_error hadv, bind_of_error hact]
      exact .error
    | halt fault =>
      rw [bind_of_ok hadv]
      exact .halt fun e s' hmeet => bind_of_error (hact.trans (fault e s' hmeet))

/-- A need may arise while there is one more frame on the stack. -/
theorem withFrame {adv : Action Advance} {act : Action Output} (h : Advances below t adv act)
    (frame : Value) : Advances below t (withFrame frame adv) (withFrame frame act) where
  keeps := h.keeps.withFrame frame
  ends s := by
    have hends := h.ends (s.framed (frame :: s.frames))
    have hframes := (h.keeps (s.framed (frame :: s.frames))).frames
    unfold Mustache.withFrame
    unfold Session.framed at hends hframes
    generalize adv { s with frames := frame :: s.frames } = r at hends
    generalize act { s with frames := frame :: s.frames } = r' at hends hframes
    cases hends with
    | ok => exact .ok
    | error => exact .error
    | halt fault =>
      refine .halt fun e s' hmeet => ?_
      rw [fault e s' hmeet]
      rfl

end Advances

section

variable {below : Below} (h : below.Keeps) (t : Template)

include h

theorem advances_renderInterpolation (place : Place) (name : String) (escaped : Bool)
    (filters : List String) (delims : Delimiters) :
    Advances below t (advanceInterpolation below t place name escaped filters delims)
      (renderInterpolation below t place name escaped filters delims) := by
  refine .after (keeps_findFiltered h _) fun v => ?_
  by_cases hlambda : v.isLambda = true
  · rw [if_pos hlambda, if_pos hlambda]
    refine .halt (.bind (keeps_renderLambda h _ _ _ _) fun _ => keeps_escapeText h _ _)
      fun s e s' hmeet => ?_
    -- Behind a fault of the lambda nothing is escaped.
    refine bind_of_error ?_
    change (renderLambda below t v name delims >>= fun text => pure (some text)) s = _ at hmeet
    cases hrun : renderLambda below t v name delims s with
    | ok text s₁ =>
      rw [bind_of_ok hrun] at hmeet
      exact absurd hmeet (by simp [pure, EStateM.pure])
    | error e' s₁ =>
      rw [bind_of_error hrun] at hmeet
      obtain ⟨rfl, rfl⟩ := EStateM.Result.error.inj hmeet
      rfl
  · rw [if_neg hlambda, if_neg hlambda]
    exact .after (.liftFault _) fun text => .complete (keeps_escapeText h _ _)

omit h in
theorem advances_renderItems {adv : Action Advance} {act : Action Output}
    (hact : Advances below t adv act) (items : List Value) :
    Advances below t (advanceItems adv items) (renderItems act items) := by
  induction items with
  | nil => exact .done _
  | cons item items ih =>
    exact .bind (hact.withFrame item) fun _ => .bind ih fun _ => .done _

theorem advances_renderSection (head : Section) {adv : Action Advance} {body : Action Output}
    (hbody : Advances below t adv body) :
    Advances below t (advanceSection below t head adv) (renderSection below t head body) := by
  refine .after (keeps_findFiltered h _) fun v => .ite ?_ (.ite ?_ ?_)
  · exact .after (.liftFault _) fun _ => .ite (.done _) hbody
  · exact .halt (.bind (keeps_renderLambda h _ _ _ _) fun _ => .pure _) fun s e s' hmeet => hmeet
  · exact .after (.liftFault _) fun _ => .ite (advances_renderItems t hbody _) (.done _)

end

mutual

theorem advances_renderNode {below : Below} (h : below.Keeps) (t : Template) :
    (n : Node) → Advances below t (advanceNode below t n) (renderNode below t n)
  | .text _ _ => .done _
  | .interpolation _ _ _ _ _ => advances_renderInterpolation h t _ _ _ _ _
  | .block _ body => advances_renderSection h t _ (advances_renderNodes h t body)
  | .inclusion _ _ _ => .halt (keeps_renderInclusion h _ _ _) fun _ _ _ hmeet => hmeet
  | .comment _ _ => .done _
  | .delimiterChange _ _ => .done _
  | .pragma _ _ => .done _
  | .flawed flaw => .complete (Keeps.tolerance.renderFlawed flaw)

/-- **Nodes are rendered up to the first need, and on from there.** -/
theorem advances_renderNodes {below : Below} (h : below.Keeps) (t : Template) :
    (ns : List Node) → Advances below t (advanceNodes below t ns) (renderNodes below t ns)
  | [] => .done _
  | n :: ns =>
    .bind (advances_renderNode h t n) fun _ =>
      .bind (advances_renderNodes h t ns) fun _ => .done _

end

/-! ## What does not depend on the engine -/

/-- **Differences that do not touch the frames**, whatever becomes of them. -/
structure IsAloof (R : Session → Session → Prop) : Prop extends IsHidden R where
  frames : ∀ {s s'}, R s s' → s'.frames = s.frames
  framed : ∀ {s s'}, R s s' → ∀ frames, R (s.framed frames) (s'.framed frames)

section

variable {R : Session → Session → Prop} (hR : IsAloof R)

include hR

omit hR in
/-- What has been found out about the need or the output stays true of it. -/
theorem Oblivious.unlessHalted {adv : Action Advance} (h : Oblivious R adv)
    {next : Output → Action Advance} (hnext : ∀ out, Oblivious R (next out)) :
    Oblivious R (unlessHalted adv next) := by
  refine .bind h fun a => ?_
  cases a with
  | error halt => exact .pure _
  | ok out => exact hnext out

omit hR in
theorem Oblivious.complete {act : Action Output} (h : Oblivious R act) :
    Oblivious R (complete act) :=
  .bind h fun _ => .pure _

namespace IsAloof

/-- A frame is pushed in both sessions, and taken off again. -/
theorem withFrame {α : Type} {act : Action α} (h : Oblivious R act) (frame : Value) :
    Oblivious R (withFrame frame act) := by
  intro s s' hs
  have hend := h _ _ (hR.framed hs (frame :: s.frames))
  unfold Mustache.withFrame
  rw [hR.frames hs]
  unfold Session.framed at hend
  generalize act { s with frames := frame :: s.frames } = r at hend ⊢
  generalize act { s' with frames := frame :: s.frames } = r' at hend ⊢
  have hback {s₁ s₁' : Session} (sessions : R s₁ s₁') :
      R (s₁.framed s₁.frames.tail) (s₁'.framed s₁'.frames.tail) := by
    rw [hR.frames sessions]
    exact hR.framed sessions _
  cases hend with
  | ok sessions => exact .ok (hback sessions)
  | error sessions => exact .error (hback sessions)

theorem haltFor (need : Need) : Oblivious R (haltFor need) :=
  .get (fun _ _ hs => by rw [hR.frames hs]) fun _ => .pure _

variable {renders : Prop} {below : Below} (h : below.Oblivious R renders)

include h

theorem findFiltered (site : FilterSite) : Oblivious R (findFiltered below site) :=
  hR.tolerance.findFiltered (h.congruent hR.toIsHidden)
    (fun hnext => .get (fun _ _ hs => by rw [hR.frames hs]) fun _ => hnext _) rfl rfl fun _ => rfl

variable (t : Template)

theorem advanceInterpolation (place : Place) (name : String) (escaped : Bool)
    (filters : List String) (delims : Delimiters) :
    Oblivious R (advanceInterpolation below t place name escaped filters delims) :=
  .bind (hR.findFiltered h _) fun _ => .ite (hR.haltFor _)
    (.bind (.liftFault _) fun _ => .complete (oblivious_escapeText hR.toIsHidden h _ _))

omit h in
theorem advanceItems {adv : Action Advance} (hadv : Oblivious R adv) (items : List Value) :
    Oblivious R (advanceItems adv items) := by
  induction items with
  | nil => exact .pure _
  | cons item items ih =>
    exact .unlessHalted (hR.withFrame hadv item) fun _ => .unlessHalted ih fun _ => .pure _

theorem advanceSection (head : Section) {body : Action Advance} (hbody : Oblivious R body) :
    Oblivious R (advanceSection below t head body) := by
  refine .bind (hR.findFiltered h _) fun v => .ite ?_ (.ite (hR.haltFor _) ?_)
  · exact .bind (.liftFault _) fun _ => .ite (.pure _) hbody
  · exact .bind (.liftFault _) fun _ => .ite (hR.advanceItems hbody _) (.pure _)

end IsAloof

end

mutual

theorem oblivious_advanceNode {R : Session → Session → Prop} (hR : IsAloof R) {renders : Prop}
    {below : Below} (h : below.Oblivious R renders) (t : Template) :
    (n : Node) → Oblivious R (advanceNode below t n)
  | .text _ _ => .pure _
  | .interpolation _ _ _ _ _ => hR.advanceInterpolation h t _ _ _ _ _
  | .block _ body => hR.advanceSection h t _ (oblivious_advanceNodes hR h t body)
  | .inclusion _ _ _ => hR.haltFor _
  | .comment _ _ => .pure _
  | .delimiterChange _ _ => .pure _
  | .pragma _ _ => .pure _
  | .flawed flaw => .complete (hR.tolerance.renderFlawed flaw)

/-- **What comes before the first need does not depend on anything but the frames** and what all
actions share. -/
theorem oblivious_advanceNodes {R : Session → Session → Prop} (hR : IsAloof R) {renders : Prop}
    {below : Below} (h : below.Oblivious R renders) (t : Template) :
    (ns : List Node) → Oblivious R (advanceNodes below t ns)
  | [] => .pure _
  | n :: ns =>
    .unlessHalted (oblivious_advanceNode hR h t n) fun _ =>
      .unlessHalted (oblivious_advanceNodes hR h t ns) fun _ => .pure _

end

/-! ## Templates of the same text -/

/-- What a template is, whatever engine has made it. -/
structure Template.SameText (t t' : Template) : Prop where
  name : t'.name = t.name
  source : t'.source = t.source
  tree : t'.tree = t.tree

mutual

theorem advanceNode_congr (below : Below) {t t' : Template} (h : t.SameText t')
    (hescaping : t'.escaping = t.escaping) :
    (n : Node) → advanceNode below t' n = advanceNode below t n
  | .text _ _ => rfl
  | .interpolation _ _ _ _ _ => by
    simp only [advanceNode, advanceInterpolation, h.name, h.source, hescaping]
  | .block _ body => by
    simp only [advanceNode, advanceSection, h.name, h.source,
      advanceNodes_congr below h hescaping body]
  | .inclusion _ _ _ => rfl
  | .comment _ _ => rfl
  | .delimiterChange _ _ => rfl
  | .pragma _ _ => rfl
  | .flawed _ => rfl

/-- The engine that has made a template plays no part before the first need. -/
theorem advanceNodes_congr (below : Below) {t t' : Template} (h : t.SameText t')
    (hescaping : t'.escaping = t.escaping) :
    (ns : List Node) → advanceNodes below t' ns = advanceNodes below t ns
  | [] => rfl
  | n :: ns => by
    rw [advanceNodes, advanceNodes, advanceNode_congr below h hescaping n,
      advanceNodes_congr below h hescaping ns]

end

/-! ## Templates with data -/

/-- A template with data and local variables, up to the first need. -/
def Template.advance (t : Template) (data : Value) (locals : Entries) : Action Advance := do
  withFrames (framesFor ((← get).engineOf? t) data locals) (advanceNodes ground t t.tree.body)

/-- What a template has come to when its nodes have been rendered. It is a fault if something that
is not text has been written. -/
def finish : EStateM.Result Fault Session Output → EStateM.Result Fault Session String
  | .ok (some text) s => .ok text s
  | .ok none s => .error .wrongKind s
  | .error e s => .error e s

theorem withFrames_renderBody (below : Below) (t : Template) (frames : List Value) (s : Session) :
    withFrames frames (renderBody below t) s =
      finish (withFrames frames (renderNodes below t t.tree.body) s) := by
  unfold withFrames renderBody
  cases hrun : renderNodes below t t.tree.body { s with frames } with
  | ok out s₁ =>
    rw [bind_of_ok hrun]
    cases out <;> rfl
  | error e s₁ =>
    rw [bind_of_error hrun]
    rfl

/-- A need may arise while there are other frames on the stack. -/
theorem EndsOn.withFrames {below : Below} {t : Template} {adv : Action Advance}
    {act : Action Output} {frames : List Value} {s : Session}
    (h : EndsOn below t frames (adv (s.framed frames)) (act (s.framed frames))) :
    EndsOn below t s.frames (withFrames frames adv s) (withFrames frames act s) := by
  unfold Mustache.withFrames
  unfold Session.framed at h
  generalize adv { s with frames } = r at h ⊢
  generalize act { s with frames } = r' at h ⊢
  cases h with
  | ok => exact .ok
  | error => exact .error
  | halt fault =>
    refine .halt fun e s' hmeet => ?_
    rw [fault e s' hmeet]
    rfl

/-- Frames that are put up are taken down again. -/
theorem frames_withFrames {α : Type} (frames : List Value) (act : Action α) (s : Session) :
    (sessionOf (withFrames frames act s)).frames = s.frames := by
  unfold withFrames
  cases act { s with frames } <;> rfl

/-- **A template with data is rendered up to the first need, and on from there.** -/
theorem Template.exists_render_eq_finish (t : Template) (data : Value) (locals : Entries)
    (s : Session) : ∃ r, EndsOn ground t s.frames (t.advance data locals s) r ∧
      t.render data locals s = finish r := by
  have hadvances := advances_renderNodes (keeps_level depthLimit) t t.tree.body
  exact ⟨_, (hadvances.ends (s.framed _)).withFrames, withFrames_renderBody ground t _ s⟩

/-! ## Without the engine -/

/-- Nothing that is needed is there without the engine: neither is the lambda called nor the other
template looked for. -/
theorem Need.meet_eq_of_gone (need : Need) (below : Below) {t : Template} {s : Session}
    (h : s.engineOf? t = none) : need.meet below t s = .error (.engineGone t.name) s := by
  cases need with
  | lambda f text delims => exact bind_of_error (bind_of_error (engineOf_eq_of_none h))
  | inclusion name indent => exact bind_of_error (engineOf_eq_of_none h)

/-- Two sessions that differ in the engine only, of which the first one has none for the
template. -/
def Session.Orphaned (t : Template) (s s' : Session) : Prop :=
  s.engineOf? t = none ∧ s' = { s with engine := s'.engine }

theorem isAloof_orphaned (t : Template) : IsAloof (Session.Orphaned t) where
  surroundings h := by rw [h.2]; rfl
  within h x := ⟨h.1, by rw [h.2]; rfl⟩
  trace h _ := ⟨h.1, by rw [h.2]⟩
  cache {s s'} h cache := by
    refine ⟨?_, by rw [h.2]; rfl⟩
    have hgone := h.1
    unfold Session.engineOf? at hgone ⊢
    cases he : s.engine with
    | none => simp [Session.mapEngine, he]
    | some e => simpa [Session.mapEngine, he, Option.filter_some] using hgone
  frames h := by rw [h.2]
  framed h frames := ⟨h.1, by rw [h.2]; rfl⟩

/-- **A template that an engine loads by name**, whatever has been done with the engine since it
was made with the given configuration. -/
inductive Template.IsLoaded (c : Engine) (t : Template) : Prop
  | load {s s' : Session} (ops : List Operation) {name : String} (engine : s.engine = some c)
    (unused : c.templates = [])
    (run : loadTemplate ground name (ops.foldl (fun s op => sessionOf (op.act s)) s) = .ok t s')

/-- A template that is loaded escapes as the engine does. -/
theorem Template.IsLoaded.escaping_eq {c : Engine} {t : Template} (h : t.IsLoaded c) :
    t.escaping = c.escaping := by
  obtain ⟨ops, engine, unused, run⟩ := h
  have hground : ground.Oblivious (fun s s' => s' = s ∧ s.EscapesAs c.escaping) True :=
    (isUnseen_escapesAs c.escaping).level depthLimit
  exact escaping_of_loadTemplate hground
    (escapesAs_of_operations ops ⟨c, engine, Engine.escapesAs_of_templates_eq_nil unused⟩) run

/-- Helpers of which there are none are no frame. -/
theorem framesFor_of_isEmpty {e : Engine} (h : e.helpers.entries = []) (data : Value)
    (locals : Entries) : framesFor (some e) data locals = framesFor none data locals := by
  simp [framesFor, h]

/-- **A template gets as far without its engine as with one.** -/
theorem Template.sameEnd_advance {t t' : Template} (htext : t.SameText t')
    (hescaping : t'.escaping = t.escaping) {s : Session} (hgone : s.engineOf? t = none) {e : Engine}
    (he : e.id = t'.engine) (hhelpers : e.helpers.entries = []) (data : Value) (locals : Entries) :
    SameEnd (Session.Orphaned t) (t.advance data locals s)
      (t'.advance data locals (s.withEngine e)) := by
  have hlive : (s.withEngine e).engineOf? t' = some e := by
    simp [Session.engineOf?, Session.withEngine, Option.filter_some, he]
  have hadvance : t'.advance data locals (s.withEngine e) =
      withFrames (framesFor none data locals) (advanceNodes ground t t.tree.body)
        (s.withEngine e) := by
    show withFrames (framesFor ((s.withEngine e).engineOf? t') data locals) _ _ = _
    rw [hlive, framesFor_of_isEmpty hhelpers, htext.tree,
      advanceNodes_congr ground htext hescaping]
  have hadvance' : t.advance data locals s =
      withFrames (framesFor none data locals) (advanceNodes ground t t.tree.body) s := by
    show withFrames (framesFor (s.engineOf? t) data locals) _ _ = _
    rw [hgone]
  rw [hadvance, hadvance']
  have hR := isAloof_orphaned t
  have hnodes := oblivious_advanceNodes hR (oblivious_level_of_isHidden hR.toIsHidden depthLimit) t
    t.tree.body
  refine SameEnd.withFrames (hnodes _ _ ⟨hgone, rfl⟩) fun sessions => ?_
  exact hR.framed sessions _

/-- **A template outlives its engine.** It is loaded by one engine, and the same text by another one
of the same escaping. The first engine is gone; the second one is there and has no helpers. What is
compared is rendering the same data.

It is escaped as the engine would have it. If the rendering with an engine meets no need, no
template is included, no lambda is the value of an interpolation or of a section that is not
inverted, and the rendering without an engine has the same outcome. If it meets one, the rendering
without an engine fails at the first one, in the session in which the need arises, and the one with
an engine goes on to meet it.

**Proof sketch.** Both get equally far, since what comes before the first need does not look at the
engine (`Template.sameEnd_advance`), and from there on each goes on by meeting the need
(`Template.exists_render_eq_finish`). Without the engine this is the fault that the engine is
gone. -/
theorem Template.render_without_engine {c c' : Engine} {t t' : Template} (hload : t.IsLoaded c)
    (hload' : t'.IsLoaded c') (hconfig : c'.escaping = c.escaping) (htext : t.SameText t')
    {s : Session} (hgone : s.engineOf? t = none) {e : Engine} (he : e.id = t'.engine)
    (hhelpers : e.helpers.entries = []) (data : Value) (locals : Entries) :
    t.escaping = c.escaping ∧
    ((∀ halt s', t'.advance data locals (s.withEngine e) ≠ .ok (.error halt) s') →
      outcomeOf (t.render data locals s) = outcomeOf (t'.render data locals (s.withEngine e))) ∧
    ∀ halt s', t'.advance data locals (s.withEngine e) = .ok (.error halt) s' →
      (∃ s₁, t.render data locals s = .error (.engineGone t.name) s₁ ∧
        s' = { s₁ with engine := s'.engine }) ∧
      ∀ fault s₂, halt.need.meet ground t' (s'.framed halt.frames) = .error fault s₂ →
        t'.render data locals (s.withEngine e) = .error fault (s₂.framed s.frames) := by
  have hescaping : t'.escaping = t.escaping := by
    rw [hload.escaping_eq, hload'.escaping_eq, hconfig]
  have hsame := sameEnd_advance htext hescaping hgone he hhelpers data locals
  obtain ⟨r, hends, hrender⟩ := t.exists_render_eq_finish data locals s
  obtain ⟨r', hends', hrender'⟩ := t'.exists_render_eq_finish data locals (s.withEngine e)
  refine ⟨hload.escaping_eq, fun hmet => ?_, fun halt s' hhalt => ⟨?_, fun fault s₂ hmeet => ?_⟩⟩
  · rw [hrender, hrender']
    generalize t'.advance data locals (s.withEngine e) = a' at hsame hends' hmet
    generalize t.advance data locals s = a at hsame hends
    cases hsame with
    | error sessions =>
      cases hends
      cases hends'
      rfl
    | @ok a s₁ s₁' sessions =>
      cases a with
      | error halt => exact absurd rfl (hmet halt s₁')
      | ok out =>
        cases hends
        cases hends'
        cases out <;> rfl
  · rw [hhalt] at hsame
    have hframes : (sessionOf (t.advance data locals s)).frames = s.frames :=
      frames_withFrames _ _ s
    generalize t.advance data locals s = a at hsame hends hframes
    cases hsame with
    | @ok _ s₁ _ sessions =>
      cases hends with
      | halt fault =>
        refine ⟨s₁, ?_, sessions.2⟩
        rw [hrender, fault _ _ (halt.need.meet_eq_of_gone ground sessions.1)]
        show EStateM.Result.error _ (s₁.framed s.frames) = _
        rw [Session.framed_eq_self (show s₁.frames = s.frames from hframes)]
  · rw [hhalt] at hends'
    rw [hrender']
    cases hends' with
    | halt fault' =>
      rw [fault' fault s₂ hmeet]
      rfl

/-- Whether a template writes a text without needing its engine. -/
def Template.writesAlone (t : Template) (data : Value) (s : Session) (text : String) : Bool :=
  match t.advance data [] s with
  | .ok (.ok (some out)) _ => out == text
  | _ => false

/-- Whether a template needs its engine. -/
def Template.needsEngine (t : Template) (data : Value) (s : Session) : Bool :=
  match t.advance data [] s with
  | .ok (.error _) _ => true
  | _ => false

/-- A template that writes a text without needing an engine writes it if there is one, and all the
more if there is none. -/
theorem Template.outcomeOf_render_of_writesAlone {t : Template} {data : Value} {s : Session}
    {text : String} (h : t.writesAlone data s text = true) :
    outcomeOf (t.render data [] s) = .ok text ∧
      ∀ halt s', t.advance data [] s ≠ .ok (.error halt) s' := by
  obtain ⟨r, hends, hrender⟩ := t.exists_render_eq_finish data [] s
  rw [hrender]
  unfold writesAlone at h
  split at h
  · next out s₁ hadvance =>
    rw [beq_iff_eq] at h
    rw [hadvance] at hends ⊢
    cases hends
    exact ⟨by rw [h]; rfl, by simp⟩
  · simp at h

/-- A template that needs its engine gets as far as a need. -/
theorem Template.exists_of_needsEngine {t : Template} {data : Value} {s : Session}
    (h : t.needsEngine data s = true) : ∃ halt s', t.advance data [] s = .ok (.error halt) s' := by
  unfold needsEngine at h
  split at h
  · next halt s' hhalt => exact ⟨halt, s', hhalt⟩
  · simp at h

/-- Whether an engine loads a template of a kind, as the first thing that is done with it. -/
def Engine.loads (c : Engine) (kind : Template → Bool) : Bool :=
  match loadTemplate ground "t" (.unused c) with
  | .ok t _ => kind t
  | .error _ _ => false

theorem Engine.exists_of_loads {c : Engine} {kind : Template → Bool} (hunused : c.templates = [])
    (h : c.loads kind = true) : ∃ t, t.IsLoaded c ∧ kind t = true := by
  unfold loads at h
  split at h
  · next t s hload => exact ⟨t, .load [] rfl hunused hload, h⟩
  · simp at h

/-- A template that includes another one in a section: the section is skipped or shown. -/
theorem Template.render_without_engine_section : ∃ (c : Engine) (t : Template) (s : Session),
    t.IsLoaded c ∧ s.engineOf? t = none ∧
    outcomeOf (t.render (.dict [(.text "x", .text "<")]) [] s) = .ok "&lt;" ∧
    ∃ s₁, t.render (.dict [(.text "x", .text "<"), (.text "y", .bool true)]) [] s =
      .error (.engineGone t.name) s₁ := by
  let c : Engine := { Engine.tabled "p" "." with
    loader := .table (textEntries
      [("t", "\x7b\x7bx\x7d\x7d\x7b\x7b#y\x7d\x7d\x7b\x7b>p\x7d\x7d\x7b\x7b/y\x7d\x7d")]) }
  let skipped : Value := .dict [(.text "x", .text "<")]
  let shown : Value := .dict [(.text "x", .text "<"), (.text "y", .bool true)]
  let s : Session := default
  obtain ⟨t, hloaded, hkind⟩ := Engine.exists_of_loads rfl (show c.loads (fun t =>
    c.id == t.engine && t.writesAlone skipped (s.withEngine c) "&lt;" &&
      t.needsEngine shown (s.withEngine c)) = true by decide +kernel)
  rw [Bool.and_eq_true, Bool.and_eq_true, beq_iff_eq] at hkind
  obtain ⟨⟨hid, hwrites⟩, hneeds⟩ := hkind
  have hsplit (data : Value) := render_without_engine hloaded hloaded rfl ⟨rfl, rfl, rfl⟩
    (s := s) rfl hid rfl data []
  obtain ⟨hout, hmet⟩ := outcomeOf_render_of_writesAlone hwrites
  obtain ⟨halt, s', hhalt⟩ := exists_of_needsEngine hneeds
  obtain ⟨⟨s₁, hgone, -⟩, -⟩ := (hsplit shown).2.2 halt s' hhalt
  exact ⟨c, t, s, hloaded, rfl, ((hsplit skipped).2.1 hmet).trans hout, s₁, hgone⟩

/-- Whether a template is the value of a name alone, with no filters and not escaped. -/
def Template.isBare (t : Template) (name : String) : Bool :=
  match t.tree.body with
  | [.interpolation _ name' escaped filters delims] =>
    name' == name && !escaped && filters.isEmpty && delims == .usual
  | _ => false

theorem Template.exists_of_isBare {t : Template} {name : String} (h : t.isBare name = true) :
    ∃ place, t.tree.body = [.interpolation place name false [] .usual] := by
  unfold isBare at h
  split at h
  · next place name' escaped filters delims hbody =>
    simp only [Bool.and_eq_true, beq_iff_eq, Bool.not_eq_true', List.isEmpty_iff] at h
    obtain ⟨⟨⟨rfl, rfl⟩, rfl⟩, rfl⟩ := h
    exact ⟨place, hbody⟩
  · simp at h

/-- A class can be called, but it is no lambda: it is written, and the engine is not needed for
it. -/
theorem Template.exists_class_written_without_engine : ∃ (c : Engine) (t : Template) (s : Session)
    (place : Place) (v : Value),
    t.IsLoaded c ∧ s.engineOf? t = none ∧ v.isCallable = true ∧
    t.tree.body = [.interpolation place "x" false [] .usual] ∧
    findName ground "x" (s.framed [.dict [(.text "x", v)]]) =
      .ok v (s.framed [.dict [(.text "x", v)]]) ∧
    outcomeOf (t.render (.dict [(.text "x", v)]) [] s) = .ok "<class 'data.C'>" := by
  let c : Engine := { Engine.tabled "p" "." with
    loader := .table (textEntries [("t", "\x7b\x7b\x7bx\x7d\x7d\x7d")]) }
  let s : Session := default
  obtain ⟨t, hloaded, hkind⟩ := Engine.exists_of_loads rfl (show c.loads (fun t =>
    t.isBare "x" && t.writesAlone (.dict [(.text "x", .type 0 "C")]) s "<class 'data.C'>") = true
      by decide +kernel)
  rw [Bool.and_eq_true] at hkind
  obtain ⟨hbare, hwrites⟩ := hkind
  obtain ⟨place, hbody⟩ := exists_of_isBare hbare
  exact ⟨c, t, s, place, .type 0 "C", hloaded, rfl, rfl, hbody, rfl,
    (outcomeOf_render_of_writesAlone hwrites).1⟩

end Mustache
