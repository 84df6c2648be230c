import Mustache.Proofs.Session.Congruence

/-!
# Relations that looking up respects

A relation of actions that calls respect is respected by whatever is built on calls: by names, by
inspection, by trees that objects describe, and by loaders. Where an expected fault is taken for the
lack of an answer, the relation must bear this too.

Each of these is shown once for values that are related, given the members of such values and the
calls of them, and then for values that are the same on both sides.

## Main definitions

* `Mustache.Tolerance` — relations that bear expected faults.
* `Mustache.Loader.searches` — the file searches of a loader.

## Main results

* `Mustache.Congruence.findName`, `Mustache.Congruence.applyFilters` — names and filters.
* `Mustache.Congruence.renderThroughOf` — what renders makes of a text.
* `Mustache.Congruence.memberNamedOf`, `Mustache.Tolerance.inspectOf`, `Mustache.Tolerance.findOf` —
  members of values, inspection and loaders.
* `Mustache.Congruence.congruent` — levels, if values are the same on both sides.
* `Mustache.Tolerance.memberNamed`, `Mustache.Tolerance.inspect`, `Mustache.Tolerance.treeOf`,
  `Mustache.Tolerance.find` — members, inspection, described trees and loaders for such values.
-/

namespace Mustache

/-! ## Names -/

namespace Congruence

section

variable {F : Fault → Fault → Prop} {V : Value → Value → Prop}
  {Rel : {α : Type} → (α → α → Prop) → Action α → Action α → Prop} (h : Congruence F V Rel)
  (below below' : Below)
  (hmember : ∀ {v w}, V v w → ∀ name, Rel V (v.memberNamed below name) (w.memberNamed below' name))

include h

section

include hmember

theorem findIn (name : String) {frames frames' : List Value}
    (hframes : List.Forall₂ V frames frames') :
    Rel V (findIn below name frames) (findIn below' name frames') := by
  induction hframes with
  | nil => exact h.sameValue _
  | cons hv _ ih =>
    refine h.bind .value (hmember hv name) fun v w hv => ?_
    rw [h.isMissing hv]
    exact h.ite ih (h.value hv)

theorem followPath {v w : Value} (hv : V v w) (parts : List String) :
    Rel V (followPath below v parts) (followPath below' w parts) := by
  induction parts generalizing v w with
  | nil => exact h.value hv
  | cons part parts ih =>
    unfold Mustache.followPath
    rw [h.isMissing hv]
    exact h.ite (h.value hv) (h.bind .value (hmember hv part) fun _ _ hv => ih hv)

/-- **A name is looked up**, given what it stands for in the frames of the session. -/
theorem findName (htop : Rel V topFrame topFrame)
    (hfirst : ∀ name, Rel V (get >>= fun s => Mustache.findIn below name s.frames)
      (get >>= fun s => Mustache.findIn below' name s.frames)) (name : String) :
    Rel V (findName below name) (findName below' name) := by
  unfold Mustache.findName
  refine h.ite htop ?_
  split
  · exact h.sameValue _
  · next first rest _ =>
    rw [← bind_assoc, ← bind_assoc]
    exact h.bind .value (hfirst first) fun _ _ hv => h.followPath below below' hmember hv rest

end

variable (hfind : ∀ name, Rel V (Mustache.findName below name) (Mustache.findName below' name))
  (hcall : ∀ {f g v w}, V f g → V v w → Rel V (f.call below [v]) (g.call below' [w]))
  {site site' : FilterSite}
  (hsite : ∀ filter, F (.unrenderable (site.unknown filter)) (.unrenderable (site'.unknown filter)))

include hfind hcall hsite

theorem applyFilters {v w : Value} (hv : V v w) (filters : List String) :
    Rel V (applyFilters below site v filters) (applyFilters below' site' w filters) := by
  induction filters generalizing v w with
  | nil => exact h.value hv
  | cons filter filters ih =>
    refine h.bind .value (hfind filter) fun f g hf => ?_
    rw [h.isLambda hf]
    exact h.guard (hsite filter) (h.bind .value (hcall hf hv) fun _ _ hv => ih hv)

/-- **The value of a tag**, passed through its filters. -/
theorem findFiltered (hname : site'.name = site.name) (hfilters : site'.filters = site.filters) :
    Rel V (findFiltered below site) (findFiltered below' site') := by
  unfold Mustache.findFiltered
  rw [hname, hfilters]
  exact h.bind .value (hfind _) fun _ _ hv =>
    h.applyFilters below below' hfind hcall hsite hv _

end

/-! ## Members -/

section

variable {F : Fault → Fault → Prop} {V : Value → Value → Prop}
  {Rel : {α : Type} → (α → α → Prop) → Action α → Action α → Prop} (h : Congruence F V Rel)
  {below below' : Below} {A : List Value → List Value → Prop}
  (hbelow : below.Congruent V Rel A below')

include h hbelow

/-- A member of one and the same value. -/
theorem member (v : Value) (name : String) :
    Rel V (v.member below name) (v.member below' name) := by
  unfold Value.member
  split
  · exact h.objectMember (h.invoke hbelow hbelow.arguments.nil) _ _
  · exact h.ite (h.sameValue _) (h.fault _)
  · exact h.fault _

end

/-! ## Texts -/

section

variable {F : Fault → Fault → Prop} {V : Value → Value → Prop}
  {Rel : {α : Type} → (α → α → Prop) → Action α → Action α → Prop} (h : Congruence F V Rel)
  (below below' : Below)

include h

/-- **What renders makes of a text**, given what objects offer for it, calls of this, and how
helpers render. -/
theorem renderThroughOf
    (hmember : ∀ {o o'}, V (.object o) (.object o') →
      Rel V (o.member below.call "render") (o'.member below'.call "render"))
    (hfunction : ∀ {f g v w}, V (.function f) (.function g) → V v w →
      Rel V (below.call f none [v]) (below'.call g none [w]))
    (hmethod : ∀ {o o' f g v w}, V (.method o f) (.method o' g) → V v w →
      Rel V (below.call f (some o) [v]) (below'.call g (some o') [w]))
    (hrender : ∀ {v w}, V v w → ∀ delims,
      Rel Eq (renderText below v delims) (renderText below' w delims))
    {v w : Value} (hv : V v w) {text text' : Action Value} (htext : Rel V text text') :
    Rel V (renderThrough below v text) (renderThrough below' w text') := by
  have hhelper (depth : Nat) (delims : Option String) (id id' : Nat) :
      Rel V (renderThrough below (.helper id depth delims) text)
        (renderThrough below' (.helper id' depth delims) text') :=
    h.bind .value htext fun _ _ hv => h.bindSame (hrender hv delims) fun _ => h.sameValue _
  have hrefused : Rel V (text >>= fun _ => MonadExcept.throw Fault.wrongKind)
      (text' >>= fun _ => MonadExcept.throw Fault.wrongKind) :=
    h.bind .value htext fun _ _ _ => h.fault _
  have hobject {o o' : Object} (ho : V (.object o) (.object o')) :
      Rel V (renderThrough below (.object o) text) (renderThrough below' (.object o') text') := by
    refine h.bind .value (hmember ho) fun f g hfg => ?_
    cases h.shape hfg with
    | same =>
      cases f with
      | function f => exact h.bind .value htext fun _ _ => hfunction hfg
      | method o f => exact h.bind .value htext fun _ _ => hmethod hfg
      | _ => exact hrefused
    | function => exact h.bind .value htext fun _ _ => hfunction hfg
    | method => exact h.bind .value htext fun _ _ => hmethod hfg
    | _ => exact hrefused
  cases h.shape hv with
  | same =>
    cases v with
    | helper id depth delims => exact hhelper depth delims id id
    | object o => exact hobject hv
    | _ => exact h.fault _
  | helper depth delims id id' => exact hhelper depth delims id id'
  | object => exact hobject hv
  | _ => exact h.fault _

end

/-! ## Levels with the same values -/

section

variable {F : Fault → Fault → Prop} {Rel : {α : Type} → (α → α → Prop) → Action α → Action α → Prop}
  (h : Congruence F Eq Rel) {below below' : Below}

include h

/-- What one and the same value makes of a text, given how texts are rendered. -/
theorem renderThrough (below below' : Below)
    (hcall : ∀ f self args, (args = [] ∨ ∃ v, args = [v]) →
      Rel Eq (below.call f self args) (below'.call f self args))
    (hrender : ∀ v delims, Rel Eq (renderText below v delims) (renderText below' v delims))
    (renderer : Value) (text text' : Action Value) (htext : Rel Eq text text') :
    Rel Eq (renderThrough below renderer text) (renderThrough below' renderer text') := by
  refine h.renderThroughOf below below' ?_ ?_ ?_ ?_ rfl htext
  · rintro o _ ⟨⟩
    exact h.objectMember (fun f self => hcall f self [] (.inl rfl)) o "render"
  · rintro f _ v _ ⟨⟩ rfl
    exact hcall f none [v] (.inr ⟨v, rfl⟩)
  · rintro o _ f _ v _ ⟨⟩ rfl
    exact hcall f (some o) [v] (.inr ⟨v, rfl⟩)
  · rintro v _ rfl delims
    exact hrender v delims

/-- **Levels are related as far as calls can tell** if all calls are, and the rendering of texts. -/
theorem congruent
    (hcall : ∀ f self args, Rel Eq (below.call f self args) (below'.call f self args))
    (hrender : ∀ v delims, Rel Eq (renderText below v delims) (renderText below' v delims)) :
    below.Congruent Eq Rel Eq below' where
  arguments :=
    { values := fun hargs => List.forall₂_eq_eq_eq ▸ hargs
      nil := rfl
      one := fun hv => hv ▸ rfl
      bind := fun hargs _ => hargs ▸ rfl }
  call f self _ _ hargs := hargs ▸ hcall f self _
  through hargs _ _ hv hw text text' htext := by
    subst hargs
    obtain rfl := Except.ok.inj (hv.symm.trans hw)
    exact h.renderThrough below below' (fun f self args _ => hcall f self args) hrender _ text text'
      htext

variable {A : List Value → List Value → Prop} (hbelow : below.Congruent Eq Rel A below')

include hbelow

theorem callMember {args : List Value} (hargs : A args args) (v : Value) (name : String) :
    Rel Eq (v.callMember below name args) (v.callMember below' name args) :=
  h.bindSame (h.member hbelow v name) fun f => h.call hbelow hargs f

end

end Congruence

/-! ## Attributes for templates -/

/-- What a template gets of an attribute, if it is there: a method that needs no arguments is
called. -/
def Value.ofMember (below : Below) : Option Value → Action Value
  | none => pure missing
  | some (method self f) =>
    if f.signature.needsNothing then f.invoke below (some self) [] else pure (method self f)
  | some w => pure w

/-- What is no object has its own signature. -/
theorem Value.signatureWithin_of_no_object {v : Value} (h : ∀ o, v ≠ .object o) (below : Below)
    (steps : Nat) : v.signatureWithin below steps = pure v.ownSignature := by
  unfold signatureWithin
  split
  · exact absurd rfl (h _)
  · rfl

/-! ## Expected faults -/

section

variable {α : Type} {x : Expected} {act : Action α} {s s' : Session}

theorem attempt_of_ok {a : α} (h : act s = .ok a s') : attempt x act s = .ok (some a) s' := by
  unfold attempt
  rw [h]

theorem attempt_of_covers {e : Fault} (h : act s = .error e s') (hcovers : x.covers e = true) :
    attempt x act s = .ok none s' := by
  unfold attempt
  rw [h]
  exact if_pos hcovers

theorem attempt_of_not_covers {e : Fault} (h : act s = .error e s') (hcovers : x.covers e = false) :
    attempt x act s = .error e s' := by
  unfold attempt
  rw [h]
  exact if_neg (by rw [hcovers]; exact Bool.false_ne_true)

/-- There is an answer, or a fault that is expected. -/
theorem attempt_cases {found : Option α} (h : attempt x act s = .ok found s') :
    (∃ a, found = some a ∧ act s = .ok a s') ∨
      found = none ∧ ∃ e, act s = .error e s' ∧ x.covers e = true := by
  cases hact : act s with
  | ok a s₁ =>
    rw [attempt_of_ok hact] at h
    obtain ⟨rfl, rfl⟩ := EStateM.Result.ok.inj h
    exact .inl ⟨a, rfl, rfl⟩
  | error e s₁ =>
    cases hcovers : x.covers e with
    | true =>
      rw [attempt_of_covers hact hcovers] at h
      obtain ⟨rfl, rfl⟩ := EStateM.Result.ok.inj h
      exact .inr ⟨rfl, e, rfl, hcovers⟩
    | false =>
      rw [attempt_of_not_covers hact hcovers] at h
      exact nomatch h

/-- What is answered is what the action answers. -/
theorem eq_ok_of_attempt {a : α} (h : attempt x act s = .ok (some a) s') : act s = .ok a s' := by
  obtain ⟨b, hb, hact⟩ | ⟨hnone, -⟩ := attempt_cases h
  · obtain rfl := Option.some.inj hb
    exact hact
  · exact nomatch hnone

end

/-! ## What a name stands for in a value -/

namespace Congruence

variable {F : Fault → Fault → Prop} {V : Value → Value → Prop}
  {Rel : {α : Type} → (α → α → Prop) → Action α → Action α → Prop} (h : Congruence F V Rel)
  {below below' : Below} {v w : Value} (hv : V v w)

include h

/-- **A lambda is called**, given how it is inspected and how it is called. -/
theorem callLambdaOf {args args' : List Value} (hlength : args'.length = args.length)
    (hinspect : Rel Eq (v.inspect below) (w.inspect below'))
    (hcall : ∀ n, Rel V (v.call below (args.take n)) (w.call below' (args'.take n))) :
    Rel V (v.callLambda below args) (w.callLambda below' args') := by
  refine h.bindSame hinspect fun sig => ?_
  rw [hlength]
  exact hcall _

variable (hmethod : ∀ {o o' f g}, V (.method o f) (.method o' g) →
  Rel V (f.invoke below (some o) []) (g.invoke below' (some o') []))

include hmethod

/-- What a template gets of an attribute, given how methods are called. -/
theorem ofMemberOf {x y : Option Value} (hxy : Option.Rel V x y) :
    Rel V (Value.ofMember below x) (Value.ofMember below' y) := by
  cases hxy with
  | none => exact h.sameValue _
  | @some v w hv =>
    cases h.shape hv with
    | same =>
      cases v with
      | method => exact h.ite (hmethod hv) (h.value hv)
      | _ => exact h.value hv
    | method signature =>
      unfold Value.ofMember
      dsimp only
      rw [signature]
      exact h.ite (hmethod hv) (h.value hv)
    | _ => exact h.value hv

include hv

/-- **What a name stands for in a value**, given the attributes in reach of templates and how
methods are called. -/
theorem memberNamedOf (name : String)
    (hmember : Value.isPrivate name = false →
      Rel (Option.Rel V) (v.member? below name) (w.member? below' name)) :
    Rel V (v.memberNamed below name) (w.memberNamed below' name) := by
  let found (below : Below) (v : Value) : Action Value :=
    if Value.isPrivate name then Pure.pure .missing
    else v.member? below name >>= Value.ofMember below
  have hfound : Rel V (found below v) (found below' w) := by
    unfold found
    cases hname : Value.isPrivate name with
    | true => exact h.sameValue _
    | false => exact h.bind (.option .value) (hmember hname) fun _ _ => h.ofMemberOf hmethod
  cases h.shape hv with
  | same =>
    cases v with
    | dict es => exact h.sameValue _
    | _ => exact hfound
  | @dict es fs entries =>
    have hget := Entries.get?_rel entries (.text name)
    show Rel V (Pure.pure ((es.get? (.text name)).getD .missing))
      (Pure.pure ((fs.get? (.text name)).getD .missing))
    generalize es.get? (.text name) = x at hget ⊢
    generalize fs.get? (.text name) = y at hget ⊢
    cases hget with
    | none => exact h.sameValue _
    | some hentry => exact h.value hentry
  | _ => exact hfound

end Congruence

/-! ## Relations that bear expected faults -/

/-- **A relation of actions that bears expected faults**: answers are related, also if a fault is
taken for the lack of one. -/
structure Tolerance (F : Fault → Fault → Prop) (V : Value → Value → Prop)
    (Rel : {α : Type} → (α → α → Prop) → Action α → Action α → Prop) : Prop extends
    Congruence F V Rel where
  attempt : ∀ {α : Type} {R : α → α → Prop}, AnswerRel V R → ∀ (x : Expected) {act act' : Action α},
    Rel R act act' → Rel (Option.Rel R) (attempt x act) (attempt x act')

namespace Tolerance

section

variable {F : Fault → Fault → Prop} {V : Value → Value → Prop}
  {Rel : {α : Type} → (α → α → Prop) → Action α → Action α → Prop} (h : Tolerance F V Rel)
  {below below' : Below}

include h

/-- If what is answered is the same, it is so whether or not it is there. -/
theorem attemptSame {α : Type} (x : Expected) {act act' : Action α} (hact : Rel Eq act act') :
    Rel Eq (Mustache.attempt x act) (Mustache.attempt x act') :=
  optionRel_eq_eq ▸ h.attempt .same x hact

/-! ### Inspection -/

variable (hmember : ∀ {v w}, V v w → ∀ name, Rel V (v.member below name) (w.member below' name))

include hmember

theorem memberOf? {v w : Value} (hv : V v w) (name : String) :
    Rel (Option.Rel V) (v.member? below name) (w.member? below' name) :=
  h.attempt .value .noAttribute (hmember hv name)

theorem wrappedOf? {v w : Value} (hv : V v w) :
    Rel (Option.Rel V) (v.wrapped? below) (w.wrapped? below') := by
  have hnone : Rel (Option.Rel V) (Pure.pure none : Action _) (Pure.pure none) :=
    h.pure (.option .value) .none
  refine h.bind (.option .value) (h.memberOf? hmember hv _) fun x y hxy => ?_
  cases hxy with
  | none => exact hnone
  | some _ =>
    refine h.bind (.option .value) (h.memberOf? hmember hv _) fun x y hxy => ?_
    cases hxy with
    | some _ => exact hnone
    | none => exact h.bind .value (hmember hv _) fun _ _ hvalue =>
        h.pure (.option .value) (.some hvalue)

theorem statedSignatureOf {v w : Value} (hv : V v w) :
    Rel Eq (v.statedSignature below) (w.statedSignature below') := by
  refine h.bind (.option .value) (h.memberOf? hmember hv _) fun x y hxy => ?_
  rw [(h.shape hv).ownSignature_eq]
  cases hxy with
  | none => exact h.same _
  | @some stated _ hstated =>
    cases h.shape hstated with
    | same => cases stated <;> exact h.same _
    | _ => exact h.same _

/-- One step of inspection, from an object to what it wraps. -/
theorem signatureStep (steps : Nat)
    (hnext : ∀ {v w : Value}, V v w → ∀ n, steps = n + 1 →
      Rel Eq (v.signatureWithin below n) (w.signatureWithin below' n)) {v w : Value} (hv : V v w) :
    Rel Eq (v.signatureWithin below steps) (w.signatureWithin below' steps) := by
  have hobject {o o' : Object} (ho : V (.object o) (.object o')) :
      Rel Eq ((Value.object o).signatureWithin below steps)
        ((Value.object o').signatureWithin below' steps) := by
    unfold Value.signatureWithin
    refine h.bind (.option .value) (h.wrappedOf? hmember ho) fun x y hxy => ?_
    cases hxy with
    | none => exact h.statedSignatureOf hmember ho
    | some hwrapped =>
      cases steps with
      | zero => exact h.same _
      | succ n => exact hnext hwrapped n rfl
  have hown := (h.shape hv).ownSignature_eq
  have hother (hv' : ∀ o, v ≠ .object o) (hw' : ∀ o, w ≠ .object o) :
      Rel Eq (v.signatureWithin below steps) (w.signatureWithin below' steps) := by
    rw [Value.signatureWithin_of_no_object hv', Value.signatureWithin_of_no_object hw', hown]
    exact h.same _
  cases h.shape hv with
  | same =>
    cases v with
    | object o => exact hobject hv
    | _ => exact hother nofun nofun
  | object => exact hobject hv
  | _ => exact hother nofun nofun

theorem signatureWithinOf (steps : Nat) {v w : Value} (hv : V v w) :
    Rel Eq (v.signatureWithin below steps) (w.signatureWithin below' steps) := by
  induction steps generalizing v w with
  | zero => exact h.signatureStep hmember 0 (fun _ _ hn => nomatch hn) hv
  | succ steps ih =>
    refine h.signatureStep hmember (steps + 1) (fun hv n hn => ?_) hv
    obtain rfl := Nat.succ.inj hn
    exact ih hv

/-- **Inspection finds the same signature**, given the attributes of values. -/
theorem inspectOf {v w : Value} (hv : V v w) : Rel Eq (v.inspect below) (w.inspect below') :=
  h.bindSame (h.attemptSame .unfit (h.signatureWithinOf hmember _ hv)) fun _ => h.same _

end

/-! ### Members -/

variable {F : Fault → Fault → Prop} {Rel : {α : Type} → (α → α → Prop) → Action α → Action α → Prop}

/-- A relation that respects what calls are made of, and says of answers that they are the same. -/
theorem of_same (h : Congruence F Eq Rel)
    (attempt : ∀ {α : Type} (x : Expected) {act act' : Action α}, Rel Eq act act' →
      Rel Eq (Mustache.attempt x act) (Mustache.attempt x act')) : Tolerance F Eq Rel where
  toCongruence := h
  attempt hR x _ _ hact := by
    rw [hR.eq_eq] at hact
    rw [hR.eq_eq, optionRel_eq_eq]
    exact attempt x hact

variable (h : Tolerance F Eq Rel) {below below' : Below} {A : List Value → List Value → Prop}
  (hbelow : below.Congruent Eq Rel A below')

include h hbelow

theorem members {v w : Value} (hv : v = w) (name : String) :
    Rel Eq (v.member below name) (w.member below' name) :=
  hv ▸ h.member hbelow v name

theorem member? (v : Value) (name : String) :
    Rel Eq (v.member? below name) (v.member? below' name) :=
  h.attemptSame .noAttribute (h.member hbelow v name)

/-- **What a name stands for in a value.** -/
theorem memberNamed (v : Value) (name : String) :
    Rel Eq (v.memberNamed below name) (v.memberNamed below' name) := by
  have hmethod {o o' : Object} {f g : Callable} (hsame : Value.method o f = .method o' g) :
      Rel Eq (f.invoke below (some o) []) (g.invoke below' (some o') []) := by
    cases hsame
    exact h.invoke hbelow hbelow.arguments.nil f (some o)
  exact h.memberNamedOf rfl hmethod name fun _ => h.memberOf? (h.members hbelow) rfl name

/-- **The signature that inspection finds.** -/
theorem inspect (v : Value) : Rel Eq (v.inspect below) (v.inspect below') :=
  h.inspectOf (h.members hbelow) rfl

theorem callLambda {args : List Value} (hargs : ∀ n, A (args.take n) (args.take n)) (v : Value) :
    Rel Eq (v.callLambda below args) (v.callLambda below' args) :=
  h.callLambdaOf rfl (h.inspect hbelow v) fun n => h.call hbelow (hargs n) v

/-! ### Names in the same frames -/

section

variable (hframes : ∀ {next next' : List Value → Action Value},
  (∀ frames, Rel Eq (next frames) (next' frames)) →
    Rel Eq (get >>= fun s => next s.frames) (get >>= fun s => next' s.frames))

include hframes

/-- **A name is looked up** in the frames, which are the same on both sides. -/
theorem findName (name : String) : Rel Eq (findName below name) (findName below' name) := by
  have hmember {v w : Value} (hv : v = w) (name : String) :
      Rel Eq (v.memberNamed below name) (w.memberNamed below' name) :=
    hv ▸ h.memberNamed hbelow v name
  refine h.toCongruence.findName below below' hmember ?_ (fun name => hframes fun frames => ?_) name
  · exact @hframes (fun frames => pure (frames.headD .missing)) _ fun _ => h.same _
  · exact h.findIn below below' hmember name (List.forall₂_same.2 fun _ _ => rfl)

/-- **The value of a tag**, passed through its filters. -/
theorem findFiltered {site site' : FilterSite} (hname : site'.name = site.name)
    (hfilters : site'.filters = site.filters)
    (hsite : ∀ filter,
      F (.unrenderable (site.unknown filter)) (.unrenderable (site'.unknown filter))) :
    Rel Eq (findFiltered below site) (findFiltered below' site') := by
  refine h.toCongruence.findFiltered below below' (h.findName hbelow hframes) ?_ hsite hname
    hfilters
  rintro f _ v _ rfl rfl
  exact h.call hbelow (hbelow.arguments.one rfl) f

end

/-! ### Trees that objects describe -/

theorem delims (v : Value) : Rel Eq (Described.delims below v) (Described.delims below' v) :=
  h.bindSame (h.member hbelow v _) fun _ => h.bindSame (h.result _) fun _ =>
    h.bindSame (h.member hbelow v _) fun _ => h.bindSame (h.result _) fun _ => h.same _

theorem place (v : Value) : Rel Eq (Described.place below v) (Described.place below' v) :=
  h.bindSame (h.member? hbelow v _) fun _ => h.bindSame (h.member? hbelow v _) fun _ => h.same _

theorem literal (v : Value) : Rel Eq (Described.literal below v) (Described.literal below' v) := by
  refine h.bindSame (h.member hbelow v _) fun _ => h.bindSame (h.result _) fun _ =>
    h.ite (h.same _) ?_
  split
  · exact h.same _
  · exact h.same _

theorem interpolation (v : Value) :
    Rel Eq (Described.interpolation below v) (Described.interpolation below' v) :=
  h.bindSame (h.member hbelow v _) fun _ => h.bindSame (h.member hbelow v _) fun _ =>
    h.bindSame (h.result _) fun _ => h.bindSame (h.member hbelow v _) fun _ =>
      h.bindSame (h.result _) fun _ => h.bindSame (h.delims hbelow v) fun _ =>
        h.bindSame (h.place hbelow v) fun _ => h.same _

theorem block (length : Nat) (v : Value) (body : List Node) :
    Rel Eq (Described.block below length v body) (Described.block below' length v body) := by
  refine h.bindSame (h.member hbelow v _) fun _ => h.bindSame (h.member hbelow v _) fun _ =>
    h.bindSame (h.result _) fun _ => h.bindSame (h.member hbelow v _) fun _ =>
      h.bindSame (h.result _) fun _ => h.bindSame (h.place hbelow v) fun _ => ?_
  exact h.ite (h.bindSame (h.same _) fun _ => h.same _) <|
    h.bindSame (h.member hbelow v _) fun _ => h.bindSame (h.member hbelow v _) fun _ =>
      h.bindSame (h.result _) fun _ => h.bindSame (h.result _) fun _ =>
        h.bindSame (h.delims hbelow v) fun _ => h.bindSame (h.same _) fun _ => h.same _

theorem inclusion (v : Value) :
    Rel Eq (Described.inclusion below v) (Described.inclusion below' v) := by
  refine h.bindSame (h.member hbelow v _) fun _ => h.bindSame (h.member hbelow v _) fun _ =>
    h.bindSame (h.result _) fun _ => ?_
  split
  · exact h.same _
  · exact h.same _

theorem parts (v : Value) : Rel Eq (Described.parts below v) (Described.parts below' v) := by
  refine h.bindSame (h.member hbelow v _) fun body => ?_
  split
  · exact h.ite (h.same _) (h.fault _)
  · split
    · exact h.same _
    · exact h.fault _

/-- **The nodes that an object describes.**

**Proof sketch.** Induction on the fuel, which bounds how deeply sections are nested. -/
theorem nodes (length fuel : Nat) (v : Value) :
    Rel Eq (Described.nodes below length fuel v) (Described.nodes below' length fuel v) := by
  induction fuel generalizing v with
  | zero => exact h.fault _
  | succ fuel ih =>
    refine h.bindSame (h.parts hbelow v) fun parts =>
      h.bindSame (h.mapM (fun part => ?_) _) fun _ => h.same _
    split
    · exact h.literal hbelow _
    · exact h.bindSame (h.interpolation hbelow _) fun _ => h.same _
    · exact h.bindSame (ih _) fun _ => h.bindSame (h.block hbelow _ _ _) fun _ => h.same _
    · exact h.bindSame (h.inclusion hbelow _) fun _ => h.same _
    · exact h.same _
    · exact h.same _
    · exact h.same _
    · exact h.fault _

theorem treeOf (source : String) (v : Value) :
    Rel Eq (treeOf below source v) (treeOf below' source v) := by
  unfold Mustache.treeOf
  split
  · exact h.same _
  · exact h.bindSame (h.nodes hbelow _ _ _) fun _ => h.same _

end Tolerance

/-! ## Loaders -/

mutual

/-- The file searches of a loader. -/
def Loader.searches : Loader → List FileSearch
  | .files search => [search]
  | .choice loaders => searchesOf loaders
  | .verbatim | .table _ | .sealed _ | .custom _ => []

/-- The file searches of some loaders. -/
def searchesOf : List Loader → List FileSearch
  | [] => []
  | l :: ls => l.searches ++ searchesOf ls

end

section

variable {F : Fault → Fault → Prop} {V : Value → Value → Prop} (h : Value.Operable F V)
  {v w : Value} (hv : V v w)

include h hv

/-- Values are taken apart into related parts. -/
theorem Value.Operable.parts? : Option.Rel (List.Forall₂ V) v.parts? w.parts? := by
  cases h.shape hv with
  | same => exact optionRel_refl h.reflList _
  | list items => exact .some items
  | tuple items => exact .some items
  | @dict es fs entries =>
    have hkeys : fs.map Prod.fst = es.map Prod.fst := by
      clear hv
      induction entries with
      | nil => rfl
      | cons hentry _ ih => rw [List.map_cons, List.map_cons, hentry.1, ih]
    show Option.Rel (List.Forall₂ V) (some (es.map Prod.fst)) (some (fs.map Prod.fst))
    rw [hkeys]
    exact .some (h.reflList _)
  | _ => exact .none

/-- What a loader of the user's own answers is taken apart alike. -/
theorem Value.Operable.foundIn :
    ResultRel F (FoundRel V) (Mustache.foundIn v) (Mustache.foundIn w) := by
  have hparts := h.parts? hv
  unfold Mustache.foundIn
  generalize v.parts? = x at hparts ⊢
  generalize w.parts? = y at hparts ⊢
  cases hparts with
  | none => exact .error (h.sameFault _)
  | some items =>
    cases items with
    | nil => exact .error (h.sameFault _)
    | cons hsource items =>
      cases items with
      | nil => exact .error (h.sameFault _)
      | cons horigin items =>
        cases items with
        | nil => exact .ok ⟨hsource, horigin⟩
        | cons _ _ => exact .error (h.sameFault _)

end

section

variable {F : Fault → Fault → Prop} {V : Value → Value → Prop}
  {Rel : {α : Type} → (α → α → Prop) → Action α → Action α → Prop} {below below' : Below}

mutual

/-- **What a loader finds**, given the members of values and their calls, and what its file searches
find. -/
theorem Tolerance.findOf (h : Tolerance F V Rel)
    (hmember : ∀ {v w}, V v w → ∀ name, Rel V (v.member below name) (w.member below' name))
    (hcall : ∀ {f g v w}, V f g → V v w → Rel V (f.call below [v]) (g.call below' [w]))
    (name : String) : (l : Loader) →
    (∀ search ∈ l.searches, Rel (FoundRel V) (get >>= fun s => liftFault (search.find s.files name))
      (get >>= fun s => liftFault (search.find s.files name))) →
    Rel (FoundRel V) (l.find below name) (l.find below' name)
  | .verbatim, _ => h.pure .found ⟨h.refl _, h.refl _⟩
  | .table _, _ => h.liftFault .found (.refl h.sameFault (AnswerRel.found.refl h.refl) _)
  | .files search, hfiles => hfiles search (by simp [Loader.searches])
  | .choice loaders, hfiles => by
    refine h.bind (.option .found) (h.findFirstOf hmember hcall name loaders hfiles)
      fun _ _ hfound => ?_
    cases hfound with
    | none => exact h.fault _
    | some hfound => exact h.pure .found hfound
  | .sealed _, _ => h.liftFault .found (.refl h.sameFault (AnswerRel.found.refl h.refl) _)
  | .custom v, _ => h.bind .value (hmember (h.refl v) _) fun _ _ hf =>
      h.bind .value (hcall hf (h.refl _)) fun _ _ hanswer => h.liftFault .found (h.foundIn hanswer)

theorem Tolerance.findFirstOf (h : Tolerance F V Rel)
    (hmember : ∀ {v w}, V v w → ∀ name, Rel V (v.member below name) (w.member below' name))
    (hcall : ∀ {f g v w}, V f g → V v w → Rel V (f.call below [v]) (g.call below' [w]))
    (name : String) : (ls : List Loader) →
    (∀ search ∈ searchesOf ls,
      Rel (FoundRel V) (get >>= fun s => liftFault (search.find s.files name))
        (get >>= fun s => liftFault (search.find s.files name))) →
    Rel (Option.Rel (FoundRel V)) (findFirst below name ls) (findFirst below' name ls)
  | [], _ => h.pure (.option .found) .none
  | l :: ls, hfiles => by
    have hl := h.findOf hmember hcall name l fun search hsearch => hfiles search (by
      simp [searchesOf, hsearch])
    refine h.bind (.option .found) (h.attempt .found .notFound hl) fun _ _ hfound => ?_
    cases hfound with
    | none => exact h.findFirstOf hmember hcall name ls fun search hsearch => hfiles search (by
        simp [searchesOf, hsearch])
    | some hfound => exact h.pure (.option .found) (.some hfound)

end

end

/-- **What a loader finds** is the same on both sides if what its file searches find is. -/
theorem Tolerance.find {F : Fault → Fault → Prop}
    {Rel : {α : Type} → (α → α → Prop) → Action α → Action α → Prop} {below below' : Below}
    {A : List Value → List Value → Prop} (h : Tolerance F Eq Rel)
    (hbelow : below.Congruent Eq Rel A below') (name : String) (l : Loader)
    (hfiles : ∀ search ∈ l.searches, Rel Eq (get >>= fun s => liftFault (search.find s.files name))
      (get >>= fun s => liftFault (search.find s.files name))) :
    Rel Eq (l.find below name) (l.find below' name) := by
  have hcall {f g v w : Value} (hfg : f = g) (hv : v = w) :
      Rel Eq (f.call below [v]) (g.call below' [w]) :=
    hfg ▸ h.call hbelow (hbelow.arguments.one hv) f
  have hfound := h.findOf (h.members hbelow) hcall name l
  rw [AnswerRel.found.eq_eq] at hfound
  exact hfound hfiles

end Mustache
