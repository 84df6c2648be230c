import Mathlib.Tactic.Common
import Mustache.Render

/-!
# Nodes that render alike

Places show only in errors, and the source of a template is looked at only for the texts between
the tags of its sections. So nodes that differ in nothing else render to the same text in the same
session, whenever rendering ends well; and if it ends because a cache cannot be written, it does so
for both.

## Main definitions

* `Mustache.Fault.IsUnwritten` — the fault of a cache that cannot be written.
* `Mustache.Refines` — an action that does what another one does.
* `Mustache.Template.Sibling` — templates that are rendered in the same way.
* `Mustache.Node.Alike`, `Mustache.AllAlike` — nodes of two sources that differ in places only.

## Main results

* `Mustache.renderNodes_refines` — nodes that are alike render to the same.
* `Mustache.renderNodes_append_eq_ok_iff` — nodes are rendered one after the other.
-/

namespace Mustache

variable {α β : Type}

/-! ## Actions that end well -/

/-- Two actions in sequence end well if both do. -/
theorem bind_eq_ok_iff {act : Action α} {next : α → Action β} {s s' : Session} {b : β} :
    (act >>= next) s = .ok b s' ↔ ∃ a s₁, act s = .ok a s₁ ∧ next a s₁ = .ok b s' := by
  show EStateM.bind act next s = .ok b s' ↔ _
  unfold EStateM.bind
  cases act s with
  | ok a s₁ =>
    constructor
    · intro h
      exact ⟨a, s₁, rfl, h⟩
    · rintro ⟨_, _, ⟨⟩, h⟩
      exact h
  | error e s₁ => simp

/-- Two actions in sequence end in a fault if the first one does, or the second one behind it. -/
theorem bind_eq_error_iff {act : Action α} {next : α → Action β} {s s' : Session} {e : Fault} :
    (act >>= next) s = .error e s' ↔ act s = .error e s' ∨
      ∃ a s₁, act s = .ok a s₁ ∧ next a s₁ = .error e s' := by
  show EStateM.bind act next s = .error e s' ↔ _
  unfold EStateM.bind
  cases act s with
  | ok a s₁ =>
    constructor
    · intro h
      exact .inr ⟨a, s₁, rfl, h⟩
    · rintro (h | ⟨_, _, ⟨⟩, h⟩)
      · exact nomatch h
      · exact h
  | error e' s₁ => simp

theorem pure_eq_ok_iff {a b : α} {s s' : Session} :
    (pure a : Action α) s = .ok b s' ↔ a = b ∧ s = s' := by
  show EStateM.Result.ok a s = .ok b s' ↔ _
  rw [EStateM.Result.ok.injEq]

theorem liftFault_eq_ok_iff {x : Except Fault α} {s s' : Session} {a : α} :
    liftFault x s = .ok a s' ↔ x = .ok a ∧ s = s' := by
  cases x with
  | ok b =>
    rw [Except.ok.injEq]
    exact pure_eq_ok_iff
  | error e =>
    show EStateM.Result.error e s = .ok a s' ↔ _
    simp

/-! ## Caches that cannot be written -/

/-- A cache could not be written. -/
def Fault.IsUnwritten : Fault → Prop
  | .template (.unwrittenCache _) => True
  | _ => False

/-- What cannot be rendered is no matter of a cache. -/
theorem Fault.not_isUnwritten_unrenderable (u : Unrenderable) :
    ¬ (Fault.unrenderable u).IsUnwritten := by
  unfold Fault.unrenderable Fault.ofPlace?
  cases u.location? with
  | none => exact id
  | some v =>
    dsimp only
    cases v.isUnwritable with
    | true => exact id
    | false =>
      show ¬ (if _ then _ else _ : Fault).IsUnwritten
      split <;> exact id

/-! ## Actions that do what others do -/

/-- **An action that does what another one does**: whenever the first one ends well, the second one
ends well with the same answer and in the same session, and if the first one cannot write a cache,
neither can the second. -/
structure Refines (act act' : Action α) : Prop where
  ok : ∀ s a s', act s = .ok a s' → act' s = .ok a s'
  unwritten : ∀ s e s', act s = .error e s' → e.IsUnwritten → act' s = .error e s'

namespace Refines

theorem refl (act : Action α) : Refines act act := ⟨fun _ _ _ h => h, fun _ _ _ h _ => h⟩

/-- A fault that has nothing to do with caches. -/
theorem throw {e : Fault} (he : ¬ e.IsUnwritten) (act : Action α) :
    Refines (MonadExcept.throw e) act :=
  ⟨fun _ _ _ h => (nomatch h), fun _ _ _ h hunwritten =>
    absurd ((EStateM.Result.error.inj h).1 ▸ hunwritten) he⟩

theorem bind {act act' : Action α} {next next' : α → Action β} (h : Refines act act')
    (hnext : ∀ a, Refines (next a) (next' a)) : Refines (act >>= next) (act' >>= next') := by
  constructor
  · intro s b s' hrun
    obtain ⟨a, s₁, hact, hrest⟩ := bind_eq_ok_iff.1 hrun
    exact bind_eq_ok_iff.2 ⟨a, s₁, h.ok _ _ _ hact, (hnext a).ok _ _ _ hrest⟩
  · intro s e s' hrun he
    rcases bind_eq_error_iff.1 hrun with hact | ⟨a, s₁, hact, hrest⟩
    · exact bind_eq_error_iff.2 (.inl (h.unwritten _ _ _ hact he))
    · exact bind_eq_error_iff.2
        (.inr ⟨a, s₁, h.ok _ _ _ hact, (hnext a).unwritten _ _ _ hrest he⟩)

theorem ite {c : Prop} [Decidable c] {act₁ act₂ act₁' act₂' : Action α} (h₁ : Refines act₁ act₁')
    (h₂ : Refines act₂ act₂') :
    Refines (if c then act₁ else act₂) (if c then act₁' else act₂') := by
  split
  · exact h₁
  · exact h₂

theorem liftFault {x x' : Except Fault α} (h : ∀ a, x = .ok a → x' = .ok a)
    (he : ∀ e, x = .error e → ¬ e.IsUnwritten) : Refines (liftFault x) (liftFault x') := by
  cases x with
  | ok a =>
    rw [h a rfl]
    exact refl _
  | error e => exact throw (he e rfl) _

theorem withFrame {act act' : Action α} (h : Refines act act') (frame : Value) :
    Refines (withFrame frame act) (withFrame frame act') := by
  constructor
  · intro s a s' hrun
    unfold Mustache.withFrame at hrun ⊢
    cases hact : act { s with frames := frame :: s.frames } with
    | ok b s₁ =>
      rw [hact] at hrun
      rw [h.ok _ _ _ hact]
      exact hrun
    | error e s₁ =>
      rw [hact] at hrun
      simp at hrun
  · intro s e s' hrun he
    unfold Mustache.withFrame at hrun ⊢
    cases hact : act { s with frames := frame :: s.frames } with
    | ok b s₁ =>
      rw [hact] at hrun
      simp at hrun
    | error e' s₁ =>
      rw [hact] at hrun
      obtain ⟨rfl, -⟩ := EStateM.Result.error.inj hrun
      rw [h.unwritten _ _ _ hact he]
      exact hrun

end Refines

/-! ## Nodes -/

/-- Templates of the same engine with the same escaping. -/
structure Template.Sibling (t t' : Template) : Prop where
  engine : t'.engine = t.engine
  escaping : t'.escaping = t.escaping

/-- Sections of two sources that differ in places only. -/
structure Section.Alike (source source' : String) (head head' : Section) : Prop where
  name : head'.name = head.name
  inverted : head'.inverted = head.inverted
  filters : head'.filters = head.filters
  delims : head'.delims = head.delims
  rawBody : head'.rawBody source' = head.rawBody source

mutual

/-- **Nodes of two sources that differ in places only**; the texts between the tags of sections are
the same. -/
inductive Node.Alike (source source' : String) : Node → Node → Prop
  | text (place place' : Place) (value : String) :
    Node.Alike source source' (.text place value) (.text place' value)
  | interpolation (place place' : Place) (name : String) (escaped : Bool) (filters : List String)
      (delims : Delimiters) :
    Node.Alike source source' (.interpolation place name escaped filters delims)
      (.interpolation place' name escaped filters delims)
  | block {head head' : Section} {body body' : List Node}
      (heads : head.Alike source source' head') (bodies : AllAlike source source' body body') :
    Node.Alike source source' (.block head body) (.block head' body')
  | inclusion (place place' : Place) (name indent : String) :
    Node.Alike source source' (.inclusion place name indent) (.inclusion place' name indent)
  | comment (place place' : Place) (value : String) :
    Node.Alike source source' (.comment place value) (.comment place' value)
  | delimiterChange (place place' : Place) (delims : Delimiters) :
    Node.Alike source source' (.delimiterChange place delims) (.delimiterChange place' delims)
  | pragma (place place' : Place) (name : String) :
    Node.Alike source source' (.pragma place name) (.pragma place' name)
  | flawed (flaw : Flaw) : Node.Alike source source' (.flawed flaw) (.flawed flaw)

/-- Nodes of two sources that differ in places only, one by one. -/
inductive AllAlike (source source' : String) : List Node → List Node → Prop
  | nil : AllAlike source source' [] []
  | cons {n n' : Node} {ns ns' : List Node} (first : n.Alike source source' n')
      (others : AllAlike source source' ns ns') :
    AllAlike source source' (n :: ns) (n' :: ns')

end

section

variable (below : Below) {t t' : Template}

/-- What a value is written as does not depend on the occasion. -/
theorem write_eq_ok_of_eq_ok {v : Value} {o : Value.Occasion} {text : String} (o' : Value.Occasion)
    (h : v.write o = .ok text) : v.write o' = .ok text := by
  unfold Value.write at h ⊢
  split at h
  all_goals try exact h
  split at h
  · simp at h
  · next hv =>
    rw [if_neg hv]
    exact h

/-- A value that has no text is no matter of a cache. -/
theorem not_isUnwritten_of_write {v : Value} {o : Value.Occasion} {e : Fault}
    (h : v.write o = .error e) : ¬ e.IsUnwritten := by
  unfold Value.write at h
  split at h
  all_goals try cases h
  split at h
  · obtain rfl := Except.error.inj h
    exact Fault.not_isUnwritten_unrenderable _
  · unfold Value.plainOrFault at h
    split at h
    · obtain rfl := Except.error.inj h
      exact id
    · exact nomatch h

theorem engineOf_refines (h : t.Sibling t') : Refines (engineOf t) (engineOf t') := by
  refine .bind (.refl _) fun s => ?_
  rw [show s.engineOf? t' = s.engineOf? t by unfold Session.engineOf?; rw [h.engine]]
  cases s.engineOf? t with
  | some e => exact .refl _
  | none => exact .throw id _

theorem applyFilters_refines {site site' : FilterSite} (v : Value) (filters : List String) :
    Refines (applyFilters below site v filters) (applyFilters below site' v filters) := by
  induction filters generalizing v with
  | nil => exact .refl _
  | cons filter filters ih =>
    refine .bind (.refl _) fun f => ?_
    dsimp only
    exact .ite (.bind (.throw (Fault.not_isUnwritten_unrenderable _) _) fun _ =>
      .bind (.refl _) fun w => ih w) (.bind (.refl _) fun w => ih w)

theorem findFiltered_refines (name : String) (filters : List String) {place place' : Place} :
    Refines (findFiltered below ⟨name, filters, place, t.name, t.source⟩)
      (findFiltered below ⟨name, filters, place', t'.name, t'.source⟩) :=
  .bind (.refl _) fun v => applyFilters_refines below v filters

theorem renderLambda_refines (h : t.Sibling t') (f : Value) (text : String) (delims : Delimiters) :
    Refines (renderLambda below t f text delims) (renderLambda below t' f text delims) :=
  .bind (engineOf_refines h) fun _ => .refl _

theorem renderInterpolation_refines (h : t.Sibling t') (place place' : Place) (name : String)
    (escaped : Bool) (filters : List String) (delims : Delimiters) :
    Refines (renderInterpolation below t place name escaped filters delims)
      (renderInterpolation below t' place' name escaped filters delims) := by
  refine .bind (findFiltered_refines below name filters) fun v => ?_
  rw [h.escaping]
  exact .ite (.bind (renderLambda_refines below h _ _ _) fun _ => .refl _)
    (.bind (.liftFault (fun _ => write_eq_ok_of_eq_ok _) fun _ => not_isUnwritten_of_write)
      fun _ => .refl _)

theorem renderItems_refines {act act' : Action Output} (h : Refines act act')
    (items : List Value) : Refines (renderItems act items) (renderItems act' items) := by
  induction items with
  | nil => exact .refl _
  | cons item items ih => exact .bind (h.withFrame item) fun _ => .bind ih fun _ => .refl _

theorem renderSection_refines (h : t.Sibling t') {head head' : Section}
    (hhead : head.Alike t.source t'.source head') {body body' : Action Output}
    (hbody : Refines body body') :
    Refines (renderSection below t head body) (renderSection below t' head' body') := by
  unfold renderSection
  rw [hhead.name, hhead.inverted, hhead.filters, hhead.delims, hhead.rawBody]
  refine .bind (findFiltered_refines below _ _) fun v => .ite ?_ (.ite ?_ ?_)
  · exact .bind (.refl _) fun _ => .ite (.refl _) hbody
  · exact .bind (renderLambda_refines below h _ _ _) fun _ => .refl _
  · exact .bind (.refl _) fun _ => .ite (renderItems_refines hbody _) (.refl _)

theorem renderInclusion_refines (h : t.Sibling t') (name indent : String) :
    Refines (renderInclusion below t name indent) (renderInclusion below t' name indent) :=
  .bind (engineOf_refines h) fun _ => .refl _

end

mutual

/-- Nodes that differ in places only render to the same. -/
theorem renderNode_refines (below : Below) {t t' : Template} (h : t.Sibling t') {n n' : Node} :
    n.Alike t.source t'.source n' → Refines (renderNode below t n) (renderNode below t' n')
  | .text _ _ _ => .refl _
  | .interpolation _ _ _ _ _ _ => renderInterpolation_refines below h _ _ _ _ _ _
  | .block heads bodies => renderSection_refines below h heads (renderNodes_refines below h bodies)
  | .inclusion _ _ _ _ => renderInclusion_refines below h _ _
  | .comment _ _ _ => .refl _
  | .delimiterChange _ _ _ => .refl _
  | .pragma _ _ _ => .refl _
  | .flawed _ => .refl _

/-- **Lists of nodes that differ in places only render to the same.** -/
theorem renderNodes_refines (below : Below) {t t' : Template} (h : t.Sibling t')
    {ns ns' : List Node} : AllAlike t.source t'.source ns ns' →
      Refines (renderNodes below t ns) (renderNodes below t' ns')
  | .nil => .refl _
  | .cons first others =>
    .bind (renderNode_refines below h first) fun _ =>
      .bind (renderNodes_refines below h others) fun _ => .refl _

end

/-! ## Outputs one after the other -/

theorem Output.append_assoc (o₁ o₂ o₃ : Output) :
    (o₁.append o₂).append o₃ = o₁.append (o₂.append o₃) := by
  cases o₁ <;> cases o₂ <;> cases o₃ <;> simp [Output.append, String.append_assoc]

@[simp] theorem Output.empty_append (o : Output) : Output.empty.append o = o := by
  cases o <;> simp [Output.append, Output.empty]

/-- Nodes are rendered one after the other. -/
theorem renderNodes_append_eq_ok_iff {below : Below} {t : Template} {ns ms : List Node}
    {s s' : Session} {out : Output} :
    renderNodes below t (ns ++ ms) s = .ok out s' ↔ ∃ first s₁ others,
      renderNodes below t ns s = .ok first s₁ ∧ renderNodes below t ms s₁ = .ok others s' ∧
        out = first.append others := by
  induction ns generalizing s s' out with
  | nil =>
    constructor
    · intro h
      exact ⟨.empty, s, out, rfl, h, (Output.empty_append out).symm⟩
    · rintro ⟨first, s₁, others, hfirst, hothers, rfl⟩
      obtain ⟨rfl, rfl⟩ := pure_eq_ok_iff.1 hfirst
      rw [Output.empty_append]
      exact hothers
  | cons n ns ih =>
    rw [List.cons_append]
    simp only [renderNodes, bind_eq_ok_iff, pure_eq_ok_iff, ih]
    constructor
    · rintro ⟨o₁, s₁, hn, o₂, s₂, ⟨o₃, s₃, o₄, hns, hms, rfl⟩, rfl, rfl⟩
      exact ⟨_, s₃, o₄, ⟨o₁, s₁, hn, o₃, s₃, hns, rfl, rfl⟩, hms, (Output.append_assoc _ _ _).symm⟩
    · rintro ⟨_, s₃, o₄, ⟨o₁, s₁, hn, o₃, s₃', hns, rfl, rfl⟩, hms, rfl⟩
      exact ⟨o₁, s₁, hn, _, _, ⟨o₃, _, o₄, hns, hms, rfl⟩, (Output.append_assoc _ _ _).symm, rfl⟩

/-- If the first nodes end well, the others may not. -/
theorem renderNodes_append_eq_error {below : Below} {t : Template} {ns ms : List Node}
    {s s₁ s' : Session} {first : Output} {e : Fault}
    (hfirst : renderNodes below t ns s = .ok first s₁) :
    renderNodes below t (ns ++ ms) s = .error e s' ↔ renderNodes below t ms s₁ = .error e s' := by
  induction ns generalizing s first with
  | nil =>
    obtain ⟨-, rfl⟩ := pure_eq_ok_iff.1 hfirst
    rfl
  | cons n ns ih =>
    obtain ⟨o, s₂, hn, hrest⟩ := bind_eq_ok_iff.1 hfirst
    obtain ⟨o', s₃, hns, hpure⟩ := bind_eq_ok_iff.1 hrest
    obtain ⟨-, rfl⟩ := pure_eq_ok_iff.1 hpure
    rw [List.cons_append]
    simp only [renderNodes, bind_eq_error_iff, hn, EStateM.Result.ok.injEq, reduceCtorEq, false_or]
    constructor
    · rintro ⟨_, _, ⟨rfl, rfl⟩, h | ⟨_, _, -, h⟩⟩
      · exact (ih hns).1 h
      · exact nomatch h
    · intro h
      exact ⟨o, s₂, ⟨rfl, rfl⟩, .inl ((ih hns).2 h)⟩

end Mustache
