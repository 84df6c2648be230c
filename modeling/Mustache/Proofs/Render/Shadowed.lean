import Mustache.Proofs.Cache.Provided
import Mustache.Proofs.Render.Oblivious

/-!
# Shadowed values

Names are looked up from the topmost frame down, and the search ends at the first table that holds
the name. So what a table further down holds under this name is never seen: not as a name of its
own, not as the first part of a path, not by a section or a filter, nor in the texts of lambdas and
in included templates, which share the stack. Local variables shadow the data in this way, and the
data shadow the helpers.

## Main definitions

* `Mustache.Entries.AgreeBut` — tables that agree but for one name.
* `Mustache.Shadowed` — stacks of frames that differ in shadowed values only.
* `Mustache.outcomeOf` — the answer or the fault of an action.

## Main results

* `Mustache.Shadowed.insert` — a shadowed value is replaced.
* `Mustache.sameEnd_findIn` — names are found alike.
* `Mustache.isUnseen_shaded` — rendering does not see shadowed values.
* `Mustache.shadowed_unseen` — templates have the same outcome whatever the shadowed values are.
-/

namespace Mustache

/-! ## Tables -/

namespace Entries

/-- Tables that hold the same under every name but one. -/
def AgreeBut (k : String) (es es' : Entries) : Prop :=
  ∀ name, name ≠ k → es'.find? name = es.find? name

/-- Another value under a name leaves what is held under the other names as it is. -/
theorem agreeBut_insert (es : Entries) (k : String) (v : Value) :
    AgreeBut k es (es.insert (.text k) v) := fun name hname => by
  rw [find?_insert, if_neg (Ne.symm hname)]

end Entries

/-! ## Frames -/

/-- A frame, and one that may hold something else under a name. -/
inductive FrameBut (k : String) : Value → Value → Prop
  | same (frame : Value) : FrameBut k frame frame
  | table {es es' : Entries} (agree : es.AgreeBut k es') : FrameBut k (.dict es) (.dict es')

/-- **Stacks that differ in shadowed values only**: some frame is a table that holds the name, and
the frames below it may hold something else under the name. -/
inductive Shadowed (k : String) : List Value → List Value → Prop
  /-- The topmost frame holds the name. -/
  | here {es : Entries} {v : Value} {frames frames' : List Value} (holds : es.find? k = some v)
    (present : v.isMissing = false) (below : List.Forall₂ (FrameBut k) frames frames') :
    Shadowed k (.dict es :: frames) (.dict es :: frames')
  /-- A frame further down holds it. -/
  | above {frame : Value} {frames frames' : List Value} (below : Shadowed k frames frames') :
    Shadowed k (frame :: frames) (frame :: frames')

namespace Shadowed

variable {k : String} {frames frames' : List Value}

theorem length_eq (h : Shadowed k frames frames') : frames'.length = frames.length := by
  induction h with
  | here _ _ below => rw [List.length_cons, List.length_cons, below.length_eq]
  | above _ ih => rw [List.length_cons, List.length_cons, ih]

theorem headD_eq (h : Shadowed k frames frames') (default : Value) :
    frames'.headD default = frames.headD default := by
  cases h <;> rfl

theorem append (h : Shadowed k frames frames') (more : List Value) :
    Shadowed k (more ++ frames) (more ++ frames') := by
  induction more with
  | nil => exact h
  | cons frame more ih => exact .above ih

/-- **A shadowed value is replaced**: the value that a table holds under the name, below a table
that holds it too. -/
theorem insert {es : Entries} {v : Value} (holds : es.find? k = some v)
    (present : v.isMissing = false) (above between below : List Value) (fs : Entries) (w : Value) :
    Shadowed k (above ++ .dict es :: (between ++ .dict fs :: below))
      (above ++ .dict es :: (between ++ .dict (fs.insert (.text k) w) :: below)) := by
  refine .append (.here holds present (List.rel_append (List.forall₂_same.2 fun v _ => .same v) ?_))
    above
  exact .cons (.table (Entries.agreeBut_insert fs k w))
    (List.forall₂_same.2 fun v _ => .same v)

end Shadowed

/-! ## Names -/

section

variable {R : Session → Session → Prop} (hR : IsHidden R) {below : Below}
  (h : below.Oblivious R True) {k name : String} {frames frames' : List Value}

include hR h

/-- Every other name is found alike in frames that may hold something else under the name. -/
theorem sameEnd_findIn_of_ne (hframes : List.Forall₂ (FrameBut k) frames frames')
    (hname : name ≠ k) {s s' : Session} (hs : R s s') :
    SameEnd R (findIn below name frames s) (findIn below name frames' s') := by
  induction hframes generalizing s s' with
  | nil => exact .ok hs
  | @cons frame frame' frames frames' first _ ih =>
    have hfirst :
        SameEnd R (frame.memberNamed below name s) (frame'.memberNamed below name s') := by
      cases first with
      | same => exact Value.oblivious_memberNamed hR h frame name s s' hs
      | @table es es' agree =>
        show SameEnd R (.ok ((Entries.find? es name).getD .missing) s)
          (.ok ((Entries.find? es' name).getD .missing) s')
        rw [agree name hname]
        exact .ok hs
    refine hfirst.bindOf fun v s₁ s₁' _ hs₁ => ?_
    by_cases hv : v.isMissing = true
    · rw [if_pos hv, if_pos hv]
      exact ih hs₁
    · rw [if_neg hv, if_neg hv]
      exact .ok hs₁

/-- **Names are found alike** in stacks that differ in shadowed values only.

**Proof sketch.** Induction on the frames above the shadowing table. That table ends the search for
the name that it holds; any other name is found alike also further down. -/
theorem sameEnd_findIn (hframes : Shadowed k frames frames') {s s' : Session} (hs : R s s') :
    SameEnd R (findIn below name frames s) (findIn below name frames' s') := by
  induction hframes generalizing s s' with
  | @here es v frames frames' holds present below' =>
    have hfirst := Value.oblivious_memberNamed hR h (.dict es) name s s' hs
    refine hfirst.bindOf fun w s₁ s₁' hrun hs₁ => ?_
    by_cases hw : w.isMissing = true
    · rw [if_pos hw, if_pos hw]
      refine sameEnd_findIn_of_ne hR h below' ?_ hs₁
      rintro rfl
      obtain ⟨hv, -⟩ := pure_eq_ok_iff.1 hrun
      rw [holds, Option.getD_some] at hv
      rw [← hv, present] at hw
      simp at hw
    · rw [if_neg hw, if_neg hw]
      exact .ok hs₁
  | @above frame frames frames' below' ih =>
    have hfirst := Value.oblivious_memberNamed hR h frame name s s' hs
    refine hfirst.bindOf fun w s₁ s₁' _ hs₁ => ?_
    by_cases hw : w.isMissing = true
    · rw [if_pos hw, if_pos hw]
      exact ih hs₁
    · rw [if_neg hw, if_neg hw]
      exact .ok hs₁

end

/-! ## Sessions -/

/-- Sessions that differ in shadowed values and in the helpers of the engine only. -/
structure Session.Shaded (k : String) (s s' : Session) : Prop where
  frames : Shadowed k s.frames s'.frames
  engine : Option.Rel (fun e e' => True ∧ ∃ helpers, e' = { e with helpers }) s.engine s'.engine
  rest : s' = { s with frames := s'.frames, engine := s'.engine }

namespace Session.Shaded

variable {k : String} {s s' : Session}

/-- The engines may be changed in the same way, if that leaves the helpers alone. -/
theorem mapEngine (hs : s.Shaded k s') {f : Engine → Engine}
    (hf : ∀ e helpers, f { e with helpers } = { f e with helpers }) :
    (s.mapEngine f).Shaded k (s'.mapEngine f) := by
  refine ⟨hs.frames, ?_, ?_⟩
  · have hengine := hs.engine
    unfold Session.mapEngine
    generalize s.engine = o at hengine ⊢
    generalize s'.engine = o' at hengine ⊢
    cases hengine with
    | none => exact .none
    | some hrel =>
      obtain ⟨-, helpers, rfl⟩ := hrel
      exact .some ⟨trivial, helpers, hf _ helpers⟩
  · rw [hs.rest]
    rfl

/-- Everything else may be changed in the same way. -/
theorem update (hs : s.Shaded k s') {f : Session → Session}
    (hframes : ∀ s, (f s).frames = s.frames) (hengine : ∀ s, (f s).engine = s.engine)
    (hf : ∀ s frames engine, f { s with frames, engine } = { f s with frames, engine }) :
    (f s).Shaded k (f s') := by
  refine ⟨?_, ?_, ?_⟩
  · rw [hframes, hframes]
    exact hs.frames
  · rw [hengine, hengine]
    exact hs.engine
  · rw [hframes, hengine, ← hf, ← hs.rest]

end Session.Shaded

theorem isHidden_shaded (k : String) : IsHidden (Session.Shaded k) where
  surroundings hs := by rw [hs.rest]; rfl
  within hs x := hs.update (f := fun s => s.within x) (fun _ => rfl) (fun _ => rfl) fun _ _ _ => rfl
  trace hs args :=
    hs.update (f := fun s => { s with calls := args :: s.calls }) (fun _ => rfl) (fun _ => rfl)
      fun _ _ _ => rfl
  cache hs cache := hs.mapEngine fun _ _ => rfl

/-- **Rendering does not see shadowed values.** -/
theorem isUnseen_shaded (k : String) : IsUnseen (Session.Shaded k) fun _ => True where
  toIsHidden := isHidden_shaded k
  engine hs := hs.engine
  nextTemplate hs := by rw [hs.rest]
  number hs n :=
    hs.update (f := fun s => { s with nextTemplate := n }) (fun _ => rfl) (fun _ => rfl)
      fun _ _ _ => rfl
  ask hs x :=
    hs.update (f := fun s => { s with asked := x :: s.asked }) (fun _ => rfl) (fun _ => rfl)
      fun _ _ _ => rfl
  template hs _ _ _ _ _ := hs.mapEngine fun _ _ => rfl
  lambdas hs f hf := hs.mapEngine fun e helpers => by rw [hf e helpers]
  depth hs := hs.frames.length_eq
  top hs := hs.frames.headD_eq _
  find h _ _ hs _ := sameEnd_findIn (isHidden_shaded k) h hs.frames hs
  push hs frame := ⟨.above hs.frames, hs.engine, by rw [hs.rest]; rfl⟩
  pop hs hs₁ := ⟨hs.frames, hs₁.engine, by rw [hs₁.rest]; rfl⟩

/-! ## Templates -/

theorem SameEnd.outcomeOf_eq {α : Type} {R : Session → Session → Prop}
    {r r' : EStateM.Result Fault Session α} (h : SameEnd R r r') : outcomeOf r' = outcomeOf r := by
  cases h <;> rfl

section

variable {k : String}

/-- The frames of a template: the local variables, the data, and the helpers. -/
theorem framesFor_eq (e : Option Engine) (data : Value) (locals : Entries) :
    framesFor e data locals =
      framesFor none .null locals ++ (framesFor none data [] ++ framesFor e .null []) := by
  simp [framesFor]

/-- Engines of which the helpers agree but for one name. -/
def Engine.HelpersBut (k : String) (e e' : Engine) : Prop :=
  ∃ helpers : Helpers, e' = { e with helpers } ∧ e.helpers.entries.AgreeBut k helpers.entries ∧
    helpers.entries.isEmpty = e.helpers.entries.isEmpty

theorem Engine.HelpersBut.framesBut {o o' : Option Engine}
    (h : Option.Rel (Engine.HelpersBut k) o o') :
    List.Forall₂ (FrameBut k) (framesFor o .null []) (framesFor o' .null []) := by
  cases h with
  | none => exact .nil
  | some h =>
    obtain ⟨helpers, rfl, agree, hempty⟩ := h
    simp only [framesFor, List.isEmpty_nil, if_true, List.nil_append, hempty]
    split
    · exact .nil
    · exact .cons (.table agree) .nil

/-- Data that hold a name shadow the helpers. -/
theorem shadowed_framesFor_of_data {o o' : Option Engine}
    (h : Option.Rel (Engine.HelpersBut k) o o') {es : Entries} {v : Value}
    (holds : es.find? k = some v) (present : v.isMissing = false) (locals : Entries) :
    Shadowed k (framesFor o (.dict es) locals) (framesFor o' (.dict es) locals) := by
  rw [framesFor_eq o, framesFor_eq o']
  exact .append (.here holds present (Engine.HelpersBut.framesBut h)) _

/-- Local variables that hold a name shadow the data and the helpers. -/
theorem shadowed_framesFor_of_locals {o o' : Option Engine}
    (h : Option.Rel (Engine.HelpersBut k) o o') {data data' : Value} (hdata : FrameBut k data data')
    {locals : Entries} {v : Value} (holds : locals.find? k = some v)
    (present : v.isMissing = false) :
    Shadowed k (framesFor o data locals) (framesFor o' data' locals) := by
  have hlocals : framesFor none .null locals = [.dict locals] := by
    cases locals with
    | nil => simp [Entries.find?, Entries.get?] at holds
    | cons entry locals => rfl
  have hframes : List.Forall₂ (FrameBut k) (framesFor none data []) (framesFor none data' []) := by
    cases hdata with
    | same => exact List.forall₂_same.2 fun v _ => .same v
    | table agree => exact .cons (.table agree) .nil
  rw [framesFor_eq o, framesFor_eq o', hlocals]
  exact .here holds present (List.rel_append hframes (Engine.HelpersBut.framesBut h))

/-- A template is rendered alike in frames that differ in shadowed values only. -/
theorem outcomeOf_render_eq {s : Session} {e e' : Engine} (he : s.engine = some e)
    (h : e.HelpersBut k e') (t : Template) {data data' : Value} {locals : Entries}
    (hframes : ∀ {o o'}, Option.Rel (Engine.HelpersBut k) o o' →
      Shadowed k (framesFor o data locals) (framesFor o' data' locals)) :
    outcomeOf (t.render data' locals { s with engine := some e' }) =
      outcomeOf (t.render data locals s) := by
  have hengine : Option.Rel (Engine.HelpersBut k) (s.engineOf? t)
      ({ s with engine := some e' }.engineOf? t) := by
    unfold Session.engineOf?
    rw [he]
    obtain ⟨helpers, rfl, hrest⟩ := h
    simp only [Option.filter_some]
    split
    · exact .some ⟨helpers, rfl, hrest⟩
    · exact .none
  have hrun (s : Session) (data : Value) : t.render data locals s =
      withFrames (framesFor (s.engineOf? t) data locals) (renderTemplate t) s := rfl
  have hshaded : Session.Shaded k (s.framed (framesFor (s.engineOf? t) data locals))
      (Session.framed { s with engine := some e' }
        (framesFor ({ s with engine := some e' }.engineOf? t) data' locals)) := by
    refine ⟨hframes hengine, ?_, rfl⟩
    obtain ⟨helpers, rfl, -⟩ := h
    show Option.Rel _ s.engine (some { e with helpers })
    rw [he]
    exact .some ⟨trivial, helpers, rfl⟩
  have hsame := (isUnseen_shaded k).renderTemplate t _ _ hshaded
  have hends : SameEnd (fun _ _ => True) (withFrames _ (renderTemplate t) s)
      (withFrames _ (renderTemplate t) { s with engine := some e' }) :=
    hsame.withFrames fun _ => trivial
  rw [hrun, hrun]
  exact hends.outcomeOf_eq

end

/-- **Shadowed values are never seen.** In any session, if the frames are replaced by others that
differ in values of `k` below a table which holds `k`, then templates have the same outcome, be it
a text or a fault, and so have any nodes of a template at any level. In particular, data that hold
`k` make it irrelevant what the helpers hold under this name, and local variables that hold `k` make
it irrelevant for the data as well.

**Proof sketch.** Two sessions that differ in shadowed values stay so whatever is pushed onto the
frames (`isUnseen_shaded`), and all that is ever asked of the frames below the topmost one is what
they hold under a name (`sameEnd_findIn`). That nothing else of them is used goes by induction on
the level and, within one level, on the tree (`IsUnseen.level`). -/
theorem shadowed_unseen (k : String) :
    (∀ (s : Session) (frames : List Value), Shadowed k s.frames frames →
      (∀ t, outcomeOf (renderTemplate t (s.framed frames)) = outcomeOf (renderTemplate t s)) ∧
      (∀ t indent, outcomeOf (renderIndented t indent (s.framed frames)) =
        outcomeOf (renderIndented t indent s)) ∧
      ∀ depth t ns, outcomeOf (renderNodes (level depth) t ns (s.framed frames)) =
        outcomeOf (renderNodes (level depth) t ns s)) ∧
    (∀ (s : Session) (e e' : Engine), s.engine = some e → e.HelpersBut k e' →
      ∀ (t : Template) (es locals : Entries) (v : Value),
        es.find? k = some v → v.isMissing = false →
        outcomeOf (t.render (.dict es) locals { s with engine := some e' }) =
          outcomeOf (t.render (.dict es) locals s)) ∧
    ∀ (s : Session) (e e' : Engine), s.engine = some e → e.HelpersBut k e' →
      ∀ (t : Template) (data data' : Value) (locals : Entries) (v : Value), FrameBut k data data' →
        locals.find? k = some v → v.isMissing = false →
        outcomeOf (t.render data' locals { s with engine := some e' }) =
          outcomeOf (t.render data locals s) := by
  have hunseen := isUnseen_shaded k
  refine ⟨fun s frames hframes => ?_, ?_, ?_⟩
  · have hshaded : s.Shaded k (s.framed frames) := by
      refine ⟨hframes, ?_, rfl⟩
      show Option.Rel _ s.engine s.engine
      cases s.engine with
      | none => exact .none
      | some e => exact .some ⟨trivial, e.helpers, rfl⟩
    refine ⟨fun t => ?_, fun t indent => ?_, fun depth t ns => ?_⟩
    · exact (hunseen.renderTemplate t _ _ hshaded).outcomeOf_eq
    · have hindented : Oblivious (Session.Shaded k) (renderIndented t indent) :=
        .bind (hunseen.renderTemplate t) fun _ => .pure _
      exact (hindented _ _ hshaded).outcomeOf_eq
    · exact (hunseen.renderNodes (hunseen.level depth) (keeps_level depth) t ns _ _
        hshaded).outcomeOf_eq
  · intro s e e' he hhelpers t es locals v holds present
    exact outcomeOf_render_eq he hhelpers t fun hrel =>
      shadowed_framesFor_of_data hrel holds present locals
  · intro s e e' he hhelpers t data data' locals v hdata holds present
    exact outcomeOf_render_eq he hhelpers t fun hrel =>
      shadowed_framesFor_of_locals hrel hdata holds present

/-- A name that is held by the data, and by a helper with another value. -/
theorem shadowed_unseen_helper : ∃ (e e' : Engine) (t : Template),
    e'.helpers.entries.find? "x" = some (.text "3") ∧
    (Shadowed "x" [.dict [(.text "x", .text "1")], .dict e.helpers.entries]
      [.dict [(.text "x", .text "1")], .dict e'.helpers.entries] ∧
      outcomeOf (renderTemplate t (Session.framed (.unused e)
        [.dict [(.text "x", .text "1")], .dict e'.helpers.entries])) = .ok "11") ∧
    (e.HelpersBut "x" e' ∧ outcomeOf (t.render (.dict [(.text "x", .text "1")]) []
      { Session.unused e with engine := some e' }) = .ok "11") ∧
    FrameBut "x" (.dict [(.text "x", .text "1")]) (.dict [(.text "x", .text "2")]) ∧
      outcomeOf (t.render (.dict [(.text "x", .text "2")]) [(.text "x", .text "4")]
        { Session.unused e with engine := some e' }) = .ok "44" := by
  let e : Engine := { Engine.tabled "p" "\x7b\x7bx\x7d\x7d" with
    helpers := ⟨[(.text "x", .text "2")]⟩ }
  let e' : Engine := { Engine.tabled "p" "\x7b\x7bx\x7d\x7d" with
    helpers := ⟨[(.text "x", .text "3")]⟩ }
  let t : Template := .made e "\x7b\x7bx\x7d\x7d\x7b\x7b>p\x7d\x7d"
  have hholds : Entries.find? [(.text "x", .text "1")] "x" = some (.text "1") := rfl
  have hframes : Shadowed "x" [.dict [(.text "x", .text "1")], .dict e.helpers.entries]
      [.dict [(.text "x", .text "1")], .dict e'.helpers.entries] :=
    .insert hholds rfl [] [] [] [(.text "x", .text "2")] (.text "3")
  have hhelpers : e.HelpersBut "x" e' :=
    ⟨_, rfl, Entries.agreeBut_insert [(.text "x", .text "2")] "x" (.text "3"), rfl⟩
  have hdata : FrameBut "x" (.dict [(.text "x", .text "1")]) (.dict [(.text "x", .text "2")]) :=
    .table (Entries.agreeBut_insert [(.text "x", .text "1")] "x" (.text "2"))
  obtain ⟨hstack, hshadowed, hlocal⟩ := shadowed_unseen "x"
  obtain ⟨s₁, hrun₁⟩ :
      ∃ s', t.render (.dict [(.text "x", .text "1")]) [] (.unused e) = .ok "11" s' :=
    Template.exists_render_eq_ok (by decide +kernel)
  obtain ⟨s₂, hrun₂⟩ : ∃ s', t.render (.dict [(.text "x", .text "1")]) [(.text "x", .text "4")]
      (.unused e) = .ok "44" s' :=
    Template.exists_render_eq_ok (by decide +kernel)
  have hrun₃ : outcomeOf (renderTemplate t (Session.framed (.unused e)
      [.dict [(.text "x", .text "1")], .dict e.helpers.entries])) = .ok "11" := by
    obtain ⟨s₃, hnodes, -⟩ := Template.render_eq_ok_iff.1 hrun₁
    have hbody : renderTemplate t (Session.framed (.unused e)
        [.dict [(.text "x", .text "1")], .dict e.helpers.entries]) = .ok "11" s₃ :=
      renderBody_eq_ok_iff.2 hnodes
    rw [hbody]
    rfl
  refine ⟨e, e', t, rfl, ⟨hframes, ?_⟩, ⟨hhelpers, ?_⟩, hdata, ?_⟩
  · rw [← hrun₃]
    exact (hstack (Session.framed (.unused e) _) _ hframes).1 t
  · rw [hshadowed _ e e' rfl hhelpers t _ [] (.text "1") rfl rfl, hrun₁]
    rfl
  · rw [hlocal _ e e' rfl hhelpers t _ _ _ (.text "4") hdata rfl rfl, hrun₂]
    rfl

end Mustache
