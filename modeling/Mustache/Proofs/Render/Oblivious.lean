import Mustache.Proofs.Render.Frames
import Mustache.Proofs.Render.Twin
import Mustache.Proofs.Session.ObliviousLoad

/-!
# Rendering that is oblivious of a difference

Rendering looks at the frames, and it has templates loaded and kept by the engine. A difference
between two sessions stays unseen by all of this if the frames answer alike to every name, if the
engines differ in no more than their helpers, and if it stays whatever is pushed onto the frames
and kept by the engines.

## Main definitions

* `Mustache.IsUnread` — differences that loading does not see.
* `Mustache.IsUnseen` — differences that rendering does not see.

## Main results

* `Mustache.IsUnread.loadText`, `Mustache.IsUnread.loadPartial?` — templates are loaded alike.
* `Mustache.IsUnseen.renderNodes` — nodes are rendered alike.
* `Mustache.IsUnseen.level` — every level is oblivious of the difference.
* `Mustache.isUnseen_of_condition` — conditions on engines that rendering keeps.
-/

namespace Mustache

/-- **A difference that loading does not see.** Engines differ in their helpers, if at all, and
the condition `E` holds of their configurations; what is kept in addition is made under this
configuration. -/
structure IsUnread (R : Session → Session → Prop) (E : Engine → Prop) : Prop extends
    IsHidden R where
  engine : ∀ {s s'}, R s s' →
    Option.Rel (fun e e' => E e ∧ ∃ helpers, e' = { e with helpers }) s.engine s'.engine
  nextTemplate : ∀ {s s'}, R s s' → s'.nextTemplate = s.nextTemplate
  number : ∀ {s s'}, R s s' → ∀ n, R { s with nextTemplate := n } { s' with nextTemplate := n }
  ask : ∀ {s s'}, R s s' → ∀ x,
    R { s with asked := x :: s.asked } { s' with asked := x :: s'.asked }
  template : ∀ {s s'}, R s s' → ∀ {e}, E e → ∀ key (t : Template), t.escaping = e.escaping →
    R (s.mapEngine fun e => { e with templates := e.templates ++ [(key, t)] })
      (s'.mapEngine fun e => { e with templates := e.templates ++ [(key, t)] })
  lambdas : ∀ {s s'}, R s s' → ∀ f : Engine → List (String × Template),
    (∀ e helpers, f { e with helpers } = f e) →
    R (s.mapEngine fun e => { e with lambdas := f e })
      (s'.mapEngine fun e => { e with lambdas := f e })

/-- **A difference that rendering does not see**: the frames answer alike to every name, whatever is
pushed onto them. -/
structure IsUnseen (R : Session → Session → Prop) (E : Engine → Prop) : Prop extends
    IsUnread R E where
  depth : ∀ {s s'}, R s s' → s'.frames.length = s.frames.length
  top : ∀ {s s'}, R s s' → s'.frames.headD .missing = s.frames.headD .missing
  find : ∀ {below}, below.Oblivious R True → ∀ {s s'}, R s s' → ∀ name,
    SameEnd R (findIn below name s.frames s) (findIn below name s'.frames s')
  push : ∀ {s s'}, R s s' → ∀ frame,
    R (s.framed (frame :: s.frames)) (s'.framed (frame :: s'.frames))
  pop : ∀ {s s' s₁ s₁'}, R s s' → R s₁ s₁' → R (s₁.framed s.frames) (s₁'.framed s'.frames)

theorem theEngine_eq_error {s : Session} (h : s.engine = none) :
    theEngine s = .error (.engineGone .null) s := by
  unfold theEngine
  rw [get_bind, h]
  rfl

/-- A template escapes as the engine does that has made it. -/
theorem escaping_of_makeTemplate {e : Engine} {source className : String} {name : Value}
    {tree : Action Tree} {s s' : Session} {t : Template}
    (h : makeTemplate e source className name tree s = .ok t s') : t.escaping = e.escaping := by
  obtain ⟨_, s₁, -, h⟩ := bind_eq_ok_iff.1 h
  obtain ⟨made, s₂, -, h⟩ := bind_eq_ok_iff.1 h
  obtain ⟨_, s₃, -, h⟩ := bind_eq_ok_iff.1 h
  obtain ⟨id, s₄, -, h⟩ := bind_eq_ok_iff.1 h
  rw [← (pure_eq_ok_iff.1 h).1]

/-- Frames are put up in two sessions, and taken down again. -/
theorem SameEnd.withFrames {α : Type} {R R' : Session → Session → Prop} {act act' : Action α}
    {frames frames' : List Value} {s s' : Session}
    (h : SameEnd R (act (s.framed frames)) (act' (s'.framed frames')))
    (hback : ∀ {s₁ s₁'}, R s₁ s₁' → R' (s₁.framed s.frames) (s₁'.framed s'.frames)) :
    SameEnd R' (withFrames frames act s) (withFrames frames' act' s') := by
  unfold Mustache.withFrames
  unfold Session.framed at h
  generalize act { s with frames } = r at h ⊢
  generalize act' { s' with frames := frames' } = r' at h ⊢
  cases h with
  | ok sessions => exact .ok (hback sessions)
  | error sessions => exact .error (hback sessions)

/-! ## What does not render -/

section

variable {R : Session → Session → Prop} (hR : IsHidden R) {renders : Prop} {below : Below}
  (h : below.Oblivious R renders)

include hR h

/-- The first of the frames that knows a name is found alike, if the frames are the same. -/
theorem oblivious_findIn (name : String) (frames : List Value) :
    Oblivious R (findIn below name frames) :=
  hR.tolerance.findIn below below (fun {v _} _ => Value.oblivious_memberNamed hR h v) name
    (List.forall₂_same.2 fun _ _ => rfl)

/-- Filters are called alike, if they are found alike. -/
theorem oblivious_applyFilters (hfind : ∀ name, Oblivious R (findName below name))
    (site : FilterSite) (v : Value) (filters : List String) :
    Oblivious R (applyFilters below site v filters) :=
  hR.tolerance.applyFilters below below hfind
    (fun {f _ v _} _ _ => Value.oblivious_call hR h (.inr (areIdle_singleton v)) f) (fun _ => rfl)
    rfl filters

theorem oblivious_escapeText (escaping : Escaping) (text : String) :
    Oblivious R (escapeText below escaping text) :=
  hR.tolerance.escapeText below below escaping
    (fun f _ => Value.oblivious_call hR h (.inr (areIdle_singleton _)) f) text

end

namespace IsUnread

variable {R : Session → Session → Prop} {E : Engine → Prop} (hR : IsUnread R E) {α : Type}

include hR

/-! ## Engines -/

/-- What is done with the engine is done alike if the helpers play no part in it. -/
theorem theEngine {next : Engine → Action α} (hsame : ∀ e helpers, next { e with helpers } = next e)
    (h : ∀ e, E e → Oblivious R (next e)) : Oblivious R (theEngine >>= next) := by
  intro s s' hs
  have hengine := hR.engine hs
  generalize he : s.engine = o at hengine
  generalize he' : s'.engine = o' at hengine
  cases hengine with
  | none =>
    rw [bind_of_error (theEngine_eq_error he), bind_of_error (theEngine_eq_error he')]
    exact .error hs
  | @some e _ hrel =>
    obtain ⟨hE, helpers, rfl⟩ := hrel
    rw [bind_of_ok (theEngine_eq_ok he), bind_of_ok (theEngine_eq_ok he'), hsame e helpers]
    exact h e hE s s' hs

/-- The engine of a template is there in both sessions, or in none. -/
theorem engineOf (t : Template) {act : Action α} (h : Oblivious R act) :
    Oblivious R (engineOf t >>= fun _ => act) := by
  intro s s' hs
  have hsame : (s'.engineOf? t).isSome = (s.engineOf? t).isSome := by
    have hengine := hR.engine hs
    unfold Session.engineOf?
    generalize s.engine = o at hengine
    generalize s'.engine = o' at hengine
    cases hengine with
    | none => rfl
    | some hrel =>
      obtain ⟨-, helpers, rfl⟩ := hrel
      simp only [Option.filter_some]
      split <;> rfl
  cases he : s.engineOf? t with
  | some e =>
    rw [he, Option.isSome_some, Option.isSome_iff_exists] at hsame
    obtain ⟨e', he'⟩ := hsame
    rw [bind_of_ok (engineOf_eq_of_some he), bind_of_ok (engineOf_eq_of_some he')]
    exact h s s' hs
  | none =>
    rw [he, Option.isSome_none, Option.isSome_eq_false_iff, Option.isNone_iff_eq_none] at hsame
    rw [bind_of_error (engineOf_eq_of_none he), bind_of_error (engineOf_eq_of_none hsame)]
    exact .error hs

/-! ## Templates -/

theorem freshTemplateId : Oblivious R freshTemplateId := by
  intro s s' hs
  show SameEnd R (.ok s.nextTemplate _) (.ok s'.nextTemplate _)
  rw [hR.nextTemplate hs]
  exact .ok (hR.number hs _)

theorem askFor (e : Engine) (source : String) : Oblivious R (askFor e source) :=
  fun _ _ hs => .ok (hR.ask hs source)

theorem makeTemplate (e : Engine) (source className : String) (name : Value) {tree : Action Tree}
    (h : Oblivious R tree) : Oblivious R (makeTemplate e source className name tree) :=
  .bind (oblivious_logEvent hR.loggable _ _ _ _) fun _ => .bind h fun _ =>
    .bind (oblivious_logEvent hR.loggable _ _ _ _) fun _ =>
      .bind hR.freshTemplateId fun _ => .pure _

/-- **Texts of lambdas are loaded alike.** -/
theorem loadText (text : String) (delims : Option String) : Oblivious R (loadText text delims) := by
  refine hR.theEngine (fun _ _ => rfl) fun e _ => .bind (hR.askFor _ _) fun key => ?_
  unfold textFor
  split
  · exact .pure _
  · split
    · exact .bind (fun _ _ hs => .ok (hR.lambdas hs _ fun _ _ => rfl)) fun _ => .pure _
    · refine .bind (oblivious_parseSource _ _) fun tree =>
        .bind (hR.makeTemplate _ _ _ _ (.pure tree)) fun t => ?_
      exact .bind (fun _ _ hs => .ok (hR.lambdas hs
        (fun e => Recent.insert e.lambdaCapacity e.lambdas key t) fun _ _ => rfl)) fun _ => .pure _

variable {renders : Prop} {below : Below} (h : below.Oblivious R renders)

include h

theorem loadSource (source name : Value) : Oblivious R (loadSource below source name) := by
  refine hR.theEngine (fun _ _ => rfl) fun e he => .bind (.liftFault _) fun text =>
    .bind (hR.askFor _ _) fun key => ?_
  unfold templateFor
  split
  · exact .pure _
  · refine .bind (oblivious_treeFor hR.toIsHidden h _ _ _ _) fun found => ?_
    refine .bindOf (fun t => t.escaping = e.escaping)
      (hR.makeTemplate _ _ _ _ (oblivious_treeOf hR.toIsHidden h _ _))
      (fun s t s' hrun => escaping_of_makeTemplate hrun) fun t ht => ?_
    exact .bind (fun _ _ hs => .ok (hR.template hs he key t ht)) fun _ => .pure _

theorem loadTemplate (name : String) : Oblivious R (loadTemplate below name) :=
  hR.theEngine (fun _ _ => rfl) fun _ _ =>
    .bind (Loader.oblivious_find hR.toIsHidden h _ _) fun _ => .bind (.liftFault _) fun _ =>
      hR.loadSource h _ _

/-- **Templates that are included are loaded alike.** -/
theorem loadPartial? (name : String) : Oblivious R (loadPartial? below name) := by
  refine hR.theEngine (fun _ _ => rfl) fun e _ =>
    .bind (.attempt _ (Loader.oblivious_find hR.toIsHidden h _ _)) fun found => ?_
  cases found with
  | none => exact .bind (oblivious_logEvent hR.loggable _ _ _ _) fun _ => .pure _
  | some found =>
    exact .bind (.liftFault _) fun _ => .bind (hR.loadSource h _ _) fun _ => .pure _

end IsUnread

namespace IsUnseen

variable {R : Session → Session → Prop} {E : Engine → Prop} (hR : IsUnseen R E) {α : Type}
  {below : Below} (h : below.Oblivious R True)

include hR h

/-! ## Names -/

theorem findName (name : String) : Oblivious R (findName below name) :=
  hR.tolerance.toCongruence.findName below below
    (fun {v _} _ => Value.oblivious_memberNamed hR.toIsHidden h v)
    (.get (fun s s' hs => by rw [hR.top hs]) fun _ => .pure _)
    (fun name _ _ hs => hR.find h hs name) name

theorem findFiltered (site : FilterSite) : Oblivious R (findFiltered below site) :=
  .bind (hR.findName h _) fun v =>
    oblivious_applyFilters hR.toIsHidden h (hR.findName h) site v site.filters

/-! ## Nodes -/

theorem renderInclusion (t : Template) (name indent : String) :
    Oblivious R (renderInclusion below t name indent) := by
  refine hR.engineOf t (.bind (hR.loadPartial? h name) fun included => ?_)
  split
  · exact .pure _
  · exact .bind (h.render trivial _) fun _ => .pure _

omit h in
/-- A frame is pushed in both sessions, and taken off again. -/
theorem withFrame {act : Action α} (hact : Oblivious R act) (hkeeps : Keeps act) (frame : Value) :
    Oblivious R (withFrame frame act) := by
  intro s s' hs
  have hsame := hact _ _ (hR.push hs frame)
  have hframes := (hkeeps (s.framed (frame :: s.frames))).frames
  have hframes' := (hkeeps (s'.framed (frame :: s'.frames))).frames
  generalize hrun : act (s.framed (frame :: s.frames)) = r at hsame hframes
  generalize hrun' : act (s'.framed (frame :: s'.frames)) = r' at hsame hframes'
  cases hsame with
  | ok sessions =>
    rw [withFrame_eq_of_ok hrun hframes, withFrame_eq_of_ok hrun' hframes']
    exact .ok (hR.pop hs sessions)
  | error sessions =>
    rw [withFrame_eq_of_error hrun hframes, withFrame_eq_of_error hrun' hframes']
    exact .error (hR.pop hs sessions)

omit h in
/-- The difference is not seen, and the frames are kept: this is a relation that calls respect. -/
theorem congruence : Congruence Eq Eq fun _ act _ => Oblivious R act ∧ Keeps act :=
  hR.tolerance.toCongruence.and Keeps.tolerance.toCongruence

variable (hkeeps : below.Keeps)

include hkeeps

/-- The parts of rendering do not see the difference, and keep the frames. -/
theorem rendering (t : Template) :
    Rendering Eq Eq (fun _ act _ => Oblivious R act ∧ Keeps act) below below t t :=
  .of_same hR.congruence rfl (fun {act _} hact =>
      ⟨hR.engineOf t hact.1, .bind (keeps_engineOf t) fun _ => hact.2⟩)
    (fun next next' hnext => ⟨.get (fun s s' hs => by rw [hR.depth hs]) fun _ => (hnext _).1,
      .bind .get fun _ => (hnext _).2⟩)
    (fun _ _ _ _ => .refl (fun _ => rfl) (fun _ => rfl) _)
    (fun _ _ _ => ⟨hR.findFiltered h _, keeps_findFiltered hkeeps _⟩)
    (fun f args => ⟨Value.oblivious_callLambda hR.toIsHidden h trivial f args,
      Value.keeps_callLambda hkeeps f args⟩)
    (fun text delims => ⟨.bind (hR.loadText _ _) (h.render trivial),
      (hkeeps.rendering t).text text delims⟩)
    (fun _ _ => ⟨oblivious_escapeText hR.toIsHidden h _ _, keeps_escapeText hkeeps _ _⟩)
    fun frame _ _ hact => ⟨hR.withFrame hact.1 hact.2 frame, .withFrame hact.2 frame⟩

theorem renderNode (t : Template) (n : Node) : Oblivious R (renderNode below t n) :=
  (hR.congruence.renderNode (hR.rendering h hkeeps t) (fun name indent =>
    ⟨hR.renderInclusion h t name indent, keeps_renderInclusion hkeeps t name indent⟩) n).1

/-- **Nodes are rendered alike.** -/
theorem renderNodes (t : Template) (ns : List Node) : Oblivious R (renderNodes below t ns) :=
  (hR.congruence.renderNodes (hR.rendering h hkeeps t) (fun name indent =>
    ⟨hR.renderInclusion h t name indent, keeps_renderInclusion hkeeps t name indent⟩) ns).1

theorem renderBody (t : Template) : Oblivious R (renderBody below t) :=
  (hR.congruence.renderBody (hR.rendering h hkeeps t) (fun name indent =>
    ⟨hR.renderInclusion h t name indent, keeps_renderInclusion hkeeps t name indent⟩) rfl).1

end IsUnseen

namespace IsUnseen

variable {R : Session → Session → Prop} {E : Engine → Prop} (hR : IsUnseen R E)

include hR

/-- **Every level is oblivious of the difference.**

**Proof sketch.** Induction on the depth: at depth zero nothing but a fault happens, and what a
level does it does by actions of its own and of the level below. -/
theorem level (depth : Nat) : (level depth).Oblivious R True := by
  induction depth with
  | zero =>
    exact ⟨fun _ _ _ _ => .throw _, fun _ _ => .throw _, fun _ => hR.loadText⟩
  | succ depth ih =>
    exact ⟨fun f self _ hargs => Callable.oblivious_invoke hR.toIsHidden ih hargs f self,
      fun _ => hR.renderBody ih (keeps_level depth), fun _ => hR.loadText⟩

theorem renderTemplate (t : Template) : Oblivious R (renderTemplate t) :=
  hR.renderBody (hR.level depthLimit) (keeps_level depthLimit) t

end IsUnseen

/-! ## Conditions on engines -/

/-- A condition on engines that does not depend on the persistent cache and on the texts of lambdas
makes a difference that rendering does not see, if it allows for more templates to be kept. -/
theorem isUnseen_of_condition {P E : Engine → Prop} (configuration : ∀ {e}, P e → E e)
    (cache : ∀ {e}, P e → ∀ cache, P { e with cache })
    (lambdas : ∀ {e}, P e → ∀ lambdas, P { e with lambdas })
    (template : ∀ {e c}, P e → E c → ∀ key (t : Template), t.escaping = c.escaping →
      P { e with templates := e.templates ++ [(key, t)] }) :
    IsUnseen (fun s s' => s' = s ∧ ∃ e, s.engine = some e ∧ P e) E := by
  have hmap {f : Engine → Engine} (hf : ∀ {e}, P e → P (f e)) {s : Session}
      (hs : ∃ e, s.engine = some e ∧ P e) : ∃ e, (s.mapEngine f).engine = some e ∧ P e := by
    obtain ⟨e, he, hP⟩ := hs
    exact ⟨f e, congrArg (Option.map f) he, hf hP⟩
  have hhidden := isHidden_of_condition (P := fun s => ∃ e, s.engine = some e ∧ P e)
    (fun hs _ => hs) (fun hs _ => hs) fun hs x => hmap (fun hP => cache hP x) hs
  exact
    { toIsHidden := hhidden
      engine := by
        rintro s _ ⟨rfl, e, he, hP⟩
        rw [he]
        exact .some ⟨configuration hP, e.helpers, rfl⟩
      nextTemplate := fun hs => by rw [hs.1]
      number := fun hs _ => ⟨by rw [hs.1], hs.2⟩
      ask := fun hs _ => ⟨by rw [hs.1], hs.2⟩
      template := fun hs _ hc key t ht =>
        ⟨by rw [hs.1], hmap (fun hP => template hP hc key t ht) hs.2⟩
      lambdas := fun hs f _ => ⟨by rw [hs.1], hmap (fun hP => lambdas hP _) hs.2⟩
      depth := fun hs => by rw [hs.1]
      top := fun hs => by rw [hs.1]
      find := fun h s s' hs name => by
        rw [hs.1]
        exact oblivious_findIn hhidden h name s.frames s s ⟨rfl, hs.2⟩
      push := fun hs _ => ⟨by rw [hs.1], hs.2⟩
      pop := fun hs hs₁ => ⟨by rw [hs.1, hs₁.1], hs₁.2⟩ }

end Mustache
