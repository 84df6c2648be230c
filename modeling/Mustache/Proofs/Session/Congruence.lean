import Mustache.Proofs.Session.Operable
import Mustache.Session.Load
import Mustache.Session.Lookup

/-!
# Relations that calls respect

Much of what is said of a call is said of every part of it: that it keeps the frames, that it ends
alike in two sessions, that it does as another call does. Such a relation of actions respects
answers, faults and sequencing, and the few actions on sessions of which calls are made. Then it
holds of every call, whatever the body is: this is shown here once, by induction on bodies.

Values need not be the same on both sides. It is enough that they are related, if operations respect
how they are. The numbers that tell new values from all others need not be the same either, if
values that differ in them are related.

## Main definitions

* `Mustache.AnswerRel` — how answers are related if values are.
* `Mustache.Congruence` — relations of actions that respect what calls are made of.
* `Mustache.Below.Congruent` — levels that are related as far as calls can tell.

## Main results

* `Mustache.Congruence.eval` — bodies.
* `Mustache.Congruence.invoke`, `Mustache.Congruence.callOf`, `Mustache.Congruence.call` — calls.
-/

namespace Mustache

/-! ## Relations of actions -/

/-- Sources that are related, with such origins. -/
structure FoundRel (V : Value → Value → Prop) (found found' : Found) : Prop where
  source : V found.source found'.source
  origin : V found.origin found'.origin

/-- How answers are related, if values are by `V`: new numbers are not told apart, and what else is
made of no values is the same on both sides. -/
inductive AnswerRel (V : Value → Value → Prop) : {α : Type} → (α → α → Prop) → Prop
  | same {α : Type} : AnswerRel V (@Eq α)
  | value : AnswerRel V V
  | values : AnswerRel V (List.Forall₂ V)
  | number : AnswerRel V (Value.NumbersAlike V)
  | found : AnswerRel V (FoundRel V)
  | option {α : Type} {R : α → α → Prop} (answers : AnswerRel V R) : AnswerRel V (Option.Rel R)

/-- If what is there is the same, so is whether it is there. -/
theorem optionRel_eq_eq {α : Type} : Option.Rel (@Eq α) = Eq := by
  funext x y
  refine propext ⟨fun h => ?_, fun h => h ▸ optionRel_refl (fun _ => rfl) x⟩
  cases h with
  | none => rfl
  | some h => exact congrArg some h

namespace AnswerRel

/-- If values are the same, answers are. -/
theorem eq_eq {α : Type} {R : α → α → Prop} (h : AnswerRel (@Eq Value) R) : R = Eq := by
  induction h with
  | same => rfl
  | value => rfl
  | values => exact List.forall₂_eq_eq_eq
  | number => exact Value.numbersAlike_eq_eq
  | found =>
    funext found found'
    exact propext ⟨fun h => congrArg₂ Found.mk h.source h.origin, fun h => h ▸ ⟨rfl, rfl⟩⟩
  | option _ ih => rw [ih, optionRel_eq_eq]

/-- Every answer is related to itself if every value is. -/
theorem refl {V : Value → Value → Prop} (hV : ∀ v, V v v) {α : Type} {R : α → α → Prop}
    (h : AnswerRel V R) (a : α) : R a a := by
  induction h with
  | same => rfl
  | value => exact hV a
  | values => exact List.forall₂_same.2 fun v _ => hV v
  | number => exact .refl hV a
  | found => exact ⟨hV _, hV _⟩
  | option _ ih => exact optionRel_refl ih a

end AnswerRel

/-- **A relation of actions that respects what calls are made of**, for every way in which answers
are related. -/
structure Congruence (F : Fault → Fault → Prop) (V : Value → Value → Prop)
    (Rel : {α : Type} → (α → α → Prop) → Action α → Action α → Prop) : Prop extends
    Value.Operable F V where
  pure : ∀ {α : Type} {R : α → α → Prop}, AnswerRel V R → ∀ {a b : α}, R a b →
    Rel R (Pure.pure a) (Pure.pure b)
  throw : ∀ {α : Type} {R : α → α → Prop} {e e' : Fault}, F e e' →
    Rel R (MonadExcept.throw e) (MonadExcept.throw e')
  bind : ∀ {α β : Type} {R : α → α → Prop} {S : β → β → Prop}, AnswerRel V R →
    ∀ {act act' : Action α} {next next' : α → Action β}, Rel R act act' →
      (∀ a b, R a b → Rel S (next a) (next' b)) → Rel S (act >>= next) (act' >>= next')
  freshId : Rel (Value.NumbersAlike V) Mustache.freshId Mustache.freshId
  countUp : ∀ {id id'}, Value.NumbersAlike V id id' →
    Rel Eq (Mustache.countUp id) (Mustache.countUp id')
  trace : ∀ {args args'}, List.Forall₂ V args args' →
    Rel Eq (modify fun s : Session => { s with calls := args :: s.calls })
      (modify fun s : Session => { s with calls := args' :: s.calls })

/-- A relation that says of answers that they are the same, if it says anything of them. -/
theorem Congruence.of_same {Rel : {α : Type} → Action α → Action α → Prop}
    (pure : ∀ {α : Type} (a : α), Rel (Pure.pure a) (Pure.pure a))
    (throw : ∀ {α : Type} (e : Fault), Rel (α := α) (MonadExcept.throw e) (MonadExcept.throw e))
    (bind : ∀ {α β : Type} {act act' : Action α} {next next' : α → Action β}, Rel act act' →
      (∀ a, Rel (next a) (next' a)) → Rel (act >>= next) (act' >>= next'))
    (freshId : Rel Mustache.freshId Mustache.freshId)
    (countUp : ∀ id, Rel (Mustache.countUp id) (Mustache.countUp id))
    (trace : ∀ args, Rel (modify fun s : Session => { s with calls := args :: s.calls })
      (modify fun s : Session => { s with calls := args :: s.calls })) :
    Congruence Eq Eq fun _ => Rel where
  toOperable := Value.operable_eq fun _ => rfl
  pure hR _ _ hab := by
    rw [hR.eq_eq] at hab
    exact hab ▸ pure _
  throw h := h ▸ throw _
  bind hR _ _ _ _ h hnext := by
    rw [hR.eq_eq] at hnext
    exact bind h fun a => hnext a a rfl
  freshId := freshId
  countUp hid := by
    rw [Value.numbersAlike_eq_eq] at hid
    exact hid ▸ countUp _
  trace h := by
    rw [List.forall₂_eq_eq_eq] at h
    exact h ▸ trace _

/-- Two relations at once. -/
theorem Congruence.and {F : Fault → Fault → Prop} {V : Value → Value → Prop}
    {Rel Rel' : {α : Type} → (α → α → Prop) → Action α → Action α → Prop}
    (h : Congruence F V Rel) (h' : Congruence F V Rel') :
    Congruence F V fun R act act' => Rel R act act' ∧ Rel' R act act' where
  toOperable := h.toOperable
  pure hR _ _ hab := ⟨h.pure hR hab, h'.pure hR hab⟩
  throw he := ⟨h.throw he, h'.throw he⟩
  bind hR _ _ _ _ hact hnext :=
    ⟨h.bind hR hact.1 fun a b hab => (hnext a b hab).1,
      h'.bind hR hact.2 fun a b hab => (hnext a b hab).2⟩
  freshId := ⟨h.freshId, h'.freshId⟩
  countUp hid := ⟨h.countUp hid, h'.countUp hid⟩
  trace hargs := ⟨h.trace hargs, h'.trace hargs⟩

namespace Congruence

variable {F : Fault → Fault → Prop} {V : Value → Value → Prop}
  {Rel : {α : Type} → (α → α → Prop) → Action α → Action α → Prop} (h : Congruence F V Rel)
  {α β : Type} {R : α → α → Prop}

include h

theorem value {v w : Value} (hv : V v w) : Rel V (Pure.pure v) (Pure.pure w) := h.pure .value hv

theorem same (a : α) : Rel Eq (Pure.pure a) (Pure.pure a) := h.pure .same rfl

/-- The same value on both sides. -/
theorem sameValue (v : Value) : Rel V (Pure.pure v) (Pure.pure v) := h.value (h.refl v)

/-- The same fault on both sides. -/
theorem fault (e : Fault) : Rel R (MonadExcept.throw e) (MonadExcept.throw e) :=
  h.throw (h.sameFault e)

/-- What comes first answers the same on both sides. -/
theorem bindSame {S : β → β → Prop} {act act' : Action α} {next next' : α → Action β}
    (hact : Rel Eq act act') (hnext : ∀ a, Rel S (next a) (next' a)) :
    Rel S (act >>= next) (act' >>= next') :=
  h.bind .same hact fun a _ hab => hab ▸ hnext a

theorem liftFault (hR : AnswerRel V R) {x y : Except Fault α} (hxy : ResultRel F R x y) :
    Rel R (liftFault x) (liftFault y) := by
  cases hxy with
  | ok answers => exact h.pure hR answers
  | error faults => exact h.throw faults

/-- The same result on both sides. -/
theorem result (x : Except Fault α) : Rel Eq (Mustache.liftFault x) (Mustache.liftFault x) :=
  h.liftFault .same (.refl h.sameFault (fun _ => rfl) x)

omit h in
theorem ite (_ : Congruence F V Rel) {c : Prop} [Decidable c] {act act' other other' : Action α}
    (hact : Rel R act act') (hother : Rel R other other') :
    Rel R (if c then act else other) (if c then act' else other') := by
  split
  · exact hact
  · exact hother

/-- A guard in front of an action. -/
theorem guard {c : Prop} [Decidable c] {e e' : Fault} (he : F e e') {rest rest' : PUnit → Action α}
    (hrest : Rel R (rest ⟨⟩) (rest' ⟨⟩)) :
    Rel R (if c then MonadExcept.throw e >>= rest else rest ⟨⟩)
      (if c then MonadExcept.throw e' >>= rest' else rest' ⟨⟩) :=
  h.ite (h.bind .same (h.throw (R := Eq) he) fun _ _ _ => hrest) hrest

theorem mapM {act act' : β → Action α} (hact : ∀ b, Rel Eq (act b) (act' b)) (bs : List β) :
    Rel Eq (bs.mapM act) (bs.mapM act') := by
  induction bs with
  | nil => exact h.same _
  | cons b bs ih =>
    rw [List.mapM_cons, List.mapM_cons]
    exact h.bindSame (hact b) fun _ => h.bindSame ih fun _ => h.same _

end Congruence

/-! ## Levels -/

/-- **What arguments calls are related for**: values that are related, also if positions are left
out. No arguments and a single one are always among them. -/
structure AreArguments (V : Value → Value → Prop) (A : List Value → List Value → Prop) : Prop where
  values : ∀ {args args'}, A args args' → List.Forall₂ V args args'
  nil : A [] []
  one : ∀ {v w}, V v w → A [v] [w]
  bind : ∀ {args args'}, A args args' → ∀ signature : Signature,
    A (signature.bind args) (signature.bind args')

/-- All arguments that are related are. -/
theorem Value.Operable.arguments {F : Fault → Fault → Prop} {V : Value → Value → Prop}
    (h : Value.Operable F V) : AreArguments V (List.Forall₂ V) where
  values hargs := hargs
  nil := .nil
  one hv := .cons hv .nil
  bind {args args'} hargs signature := by
    cases signature with
    | hidden => exact hargs
    | parameters ps =>
      unfold Signature.bind
      dsimp only
      rw [hargs.length_eq]
      exact List.rel_append hargs (h.reflList _)

/-- **Levels that are related as far as calls can tell**, whatever renders the texts of bodies. -/
structure Below.Congruent (V : Value → Value → Prop)
    (Rel : {α : Type} → (α → α → Prop) → Action α → Action α → Prop)
    (A : List Value → List Value → Prop) (below below' : Below) : Prop where
  arguments : AreArguments V A
  call : ∀ f self {args args'}, A args args' →
    Rel V (below.call f self args) (below'.call f self args')
  through : ∀ {args args'}, A args args' → ∀ {v w}, Value.atIndex args 1 = .ok v →
    Value.atIndex args' 1 = .ok w → ∀ {text text'}, Rel V text text' →
      Rel V (renderThrough below v text) (renderThrough below' w text')

/-- Levels are related for all arguments that are, given what renders texts. -/
theorem Value.Operable.congruent {F : Fault → Fault → Prop} {V : Value → Value → Prop}
    {Rel : {α : Type} → (α → α → Prop) → Action α → Action α → Prop} {below below' : Below}
    (h : Value.Operable F V)
    (hcall : ∀ f self {args args'}, List.Forall₂ V args args' →
      Rel V (below.call f self args) (below'.call f self args'))
    (hthrough : ∀ {v w}, V v w → ∀ {text text'}, Rel V text text' →
      Rel V (renderThrough below v text) (renderThrough below' w text')) :
    below.Congruent V Rel (List.Forall₂ V) below' where
  arguments := h.arguments
  call := hcall
  through hargs v w hv hw _ _ htext := by
    have hrel := Value.atIndex_rel h.sameFault hargs 1
    rw [hv, hw] at hrel
    cases hrel with
    | ok answers => exact hthrough answers htext

namespace Congruence

variable {F : Fault → Fault → Prop} {V : Value → Value → Prop}
  {Rel : {α : Type} → (α → α → Prop) → Action α → Action α → Prop} (h : Congruence F V Rel)

include h

/-- A member of one and the same object. -/
theorem objectMember {call call' : Callable → Option Object → List Value → Action Value}
    (hcall : ∀ f self, Rel V (call f self []) (call' f self [])) (o : Object) (name : String) :
    Rel V (o.member call name) (o.member call' name) := by
  unfold Object.member
  split
  · exact hcall _ _
  · split
    · exact h.sameValue _
    · split
      · exact h.sameValue _
      · split
        · exact h.sameValue _
        · exact h.fault _

end Congruence

/-! ## Bodies -/

section

variable {F : Fault → Fault → Prop} {V : Value → Value → Prop}
  {Rel : {α : Type} → (α → α → Prop) → Action α → Action α → Prop} {below below' : Below}
  {A : List Value → List Value → Prop}

mutual

/-- **The value of a body**, for one and the same object, numbers that are not told apart, and
related arguments.

**Proof sketch.** Induction on the body. Each form is made of smaller ones by sequencing, and of
what the relation respects; members and rendered texts are left to the next level. -/
theorem Congruence.eval (h : Congruence F V Rel) (hbelow : below.Congruent V Rel A below')
    {id id' : Nat} (hid : Value.NumbersAlike V id id') (self : Option Object)
    {args args' : List Value} (hargs : A args args') :
    (b : Body) → Rel V (b.eval below ⟨id, self, args⟩) (b.eval below' ⟨id', self, args'⟩)
  | .lit v => h.sameValue v
  | .arg i => h.liftFault .value (Value.atIndex_rel h.sameFault (hbelow.arguments.values hargs) i)
  | .argCount => by
    rw [Body.eval, Body.eval]
    dsimp only
    rw [(hbelow.arguments.values hargs).length_eq]
    exact h.sameValue _
  | .callCount => h.bindSame (h.countUp hid) fun _ => h.sameValue _
  | .self name => by
    rw [Body.eval, Body.eval]
    cases self with
    | none => exact h.fault _
    | some o => exact h.objectMember (fun f self => hbelow.call f self hbelow.arguments.nil) o name
  | .function f => h.bind .number h.freshId fun _ _ hnew => h.value (hnew.function f)
  | .list items => h.bind .values (h.evalAll hbelow hid self hargs items) fun _ _ hitems =>
      h.value (h.list hitems)
  | .raise _ _ => h.fault _
  | .render text => by
    have htext := h.eval hbelow hid self hargs text
    have hrenderer := Value.atIndex_rel h.sameFault (hbelow.arguments.values hargs) 1
    rw [Body.eval, Body.eval]
    generalize hx : Value.atIndex args 1 = x at hrenderer
    generalize hy : Value.atIndex args' 1 = y at hrenderer
    cases hrenderer with
    | ok _ => exact hbelow.through hargs hx hy htext
    | error faults =>
      show Rel V (MonadExcept.throw _) (MonadExcept.throw _)
      exact h.throw faults
  | .quote b => h.bind .value (h.eval hbelow hid self hargs b) fun v w hv => by
      rw [h.quote hv]
      exact h.bindSame (h.result _) fun _ => h.sameValue _
  | .isMissing b => h.bind .value (h.eval hbelow hid self hargs b) fun v w hv => by
      rw [h.isMissing hv]
      exact h.sameValue _
  | .join items => h.bind .values (h.evalAll hbelow hid self hargs items) fun vs ws hitems => by
      rw [h.join hitems]
      exact h.liftFault .value (.refl h.sameFault h.refl _)
  | .upper b => h.bind .value (h.eval hbelow hid self hargs b) fun _ _ hv =>
      h.liftFault .value (h.onText hv _)
  | .lower b => h.bind .value (h.eval hbelow hid self hargs b) fun _ _ hv =>
      h.liftFault .value (h.onText hv _)
  | .trim b => h.bind .value (h.eval hbelow hid self hargs b) fun _ _ hv =>
      h.liftFault .value (h.onText hv _)
  | .replace b _ _ => h.bind .value (h.eval hbelow hid self hargs b) fun _ _ hv =>
      h.liftFault .value (h.onText hv _)
  | .reverse b => h.bind .value (h.eval hbelow hid self hargs b) fun _ _ hv =>
      h.liftFault .value (h.reverse hv)
  | .first b => h.bind .value (h.eval hbelow hid self hargs b) fun _ _ hv =>
      h.liftFault .value (h.first hv)
  | .length b => h.bind .value (h.eval hbelow hid self hargs b) fun _ _ hv =>
      h.liftFault .value (h.length hv)
  | .add b c => h.bind .value (h.eval hbelow hid self hargs b) fun _ _ hv =>
      h.bind .value (h.eval hbelow hid self hargs c) fun _ _ hw =>
        h.bind .number h.freshId fun _ _ hnew => h.liftFault .value (h.add hv hw hnew)
  | .mul b c => h.bind .value (h.eval hbelow hid self hargs b) fun _ _ hv =>
      h.bind .value (h.eval hbelow hid self hargs c) fun _ _ hw =>
        h.bind .number h.freshId fun _ _ hnew => h.liftFault .value (h.mul hv hw hnew)
  | .item b key => h.bind .value (h.eval hbelow hid self hargs b) fun _ _ hv =>
      h.liftFault .value (h.item hv key)

/-- The values of bodies in order. -/
theorem Congruence.evalAll (h : Congruence F V Rel) (hbelow : below.Congruent V Rel A below')
    {id id' : Nat} (hid : Value.NumbersAlike V id id') (self : Option Object)
    {args args' : List Value} (hargs : A args args') :
    (bs : List Body) → Rel (List.Forall₂ V) (Body.evalAll below ⟨id, self, args⟩ bs)
      (Body.evalAll below' ⟨id', self, args'⟩ bs)
  | [] => h.pure .values .nil
  | b :: bs => h.bind .value (h.eval hbelow hid self hargs b) fun _ _ hv =>
      h.bind .values (h.evalAll hbelow hid self hargs bs) fun _ _ hvs =>
        h.pure .values (.cons hv hvs)

end

end

/-! ## Calls -/

namespace Congruence

section

variable {F : Fault → Fault → Prop} {V : Value → Value → Prop}
  {Rel : {α : Type} → (α → α → Prop) → Action α → Action α → Prop} (h : Congruence F V Rel)
  {below below' : Below} {args args' : List Value} (hargs : List.Forall₂ V args args')

include h hargs

/-- **A call of related values**, given how what they run is called. -/
theorem callOf {v w : Value} (hv : V v w) (hinvoke : ∀ {f g}, v.callee? = some f →
    w.callee? = some g → Rel V (f.1.invoke below f.2 args) (g.1.invoke below' g.2 args')) :
    Rel V (v.call below args) (w.call below' args') := by
  have hrun {f g} (hf : v.callee? = some f) (hg : w.callee? = some g) :
      Rel V (v.call below args) (w.call below' args') := by
    unfold Value.call
    rw [hf, hg]
    exact hinvoke hf hg
  cases h.shape hv with
  | same =>
    cases hf : v.callee? with
    | some f => exact hrun hf hf
    | none =>
      unfold Value.call
      rw [hf]
      cases hargs with
      | cons => cases v <;> exact h.fault _
      | nil =>
        let made (name : String) : Action Value :=
          Mustache.freshId >>= fun id => Pure.pure (Value.plainObject id name)
        have hmade (name : String) : Rel V (made name) (made name) :=
          h.bind .number h.freshId fun _ _ hnew => h.value (hnew.plain name)
        cases v with
        | type id name => exact hmade name
        | topType => exact hmade "object"
        | lineage id name => exact h.sameValue _
        | _ => exact h.fault _
  | function => exact hrun rfl rfl
  | method => exact hrun rfl rfl
  | @object o o' _ _ call =>
    have hcallee (o : Object) :
        (Value.object o).callee? = o.call.map fun f => (f, some o) := rfl
    cases hf : o.call with
    | some f =>
      rw [hf, Option.map_some] at call
      obtain ⟨g, hg, -⟩ := Option.map_eq_some_iff.1 call
      exact hrun (by rw [hcallee, hf, Option.map_some]) (by rw [hcallee, hg, Option.map_some])
    | none =>
      rw [hf, Option.map_none, Option.map_eq_none_iff] at call
      unfold Value.call
      rw [hcallee, hcallee, hf, call]
      exact h.fault _
  | _ => cases hargs <;> exact h.fault _

end

variable {F : Fault → Fault → Prop} {V : Value → Value → Prop}
  {Rel : {α : Type} → (α → α → Prop) → Action α → Action α → Prop} (h : Congruence F V Rel)
  {below below' : Below} {A : List Value → List Value → Prop}
  (hbelow : below.Congruent V Rel A below') {args args' : List Value} (hargs : A args args')

include h hbelow hargs

/-- **A call of one and the same callable**, but for its number, and for one and the same object. -/
theorem invokeAs (f : Callable) {id : Nat} (hid : Value.NumbersAlike V f.id id)
    (self : Option Object) :
    Rel V (f.invoke below self args) ({ f with id }.invoke below' self args') := by
  have hbound := hbelow.arguments.bind hargs f.signature
  have hrun := h.eval hbelow hid self hbound f.body
  have htrace := h.trace (hbelow.arguments.values hbound)
  have htraced (_ : Unit) : Rel V
      (if f.traced then do
        modify fun s => { s with calls := f.signature.bind args :: s.calls }
        f.body.eval below ⟨f.id, self, f.signature.bind args⟩
        else f.body.eval below ⟨f.id, self, f.signature.bind args⟩)
      (if f.traced then do
        modify fun s => { s with calls := f.signature.bind args' :: s.calls }
        f.body.eval below' ⟨id, self, f.signature.bind args'⟩
        else f.body.eval below' ⟨id, self, f.signature.bind args'⟩) :=
    h.ite (h.bindSame htrace fun _ => hrun) hrun
  unfold Callable.invoke
  rw [(hbelow.arguments.values hargs).length_eq]
  exact h.guard (h.sameFault _) (htraced ())

/-- **A call of one and the same callable**, for one and the same object. -/
theorem invoke (f : Callable) (self : Option Object) :
    Rel V (f.invoke below self args) (f.invoke below' self args') :=
  h.invokeAs hbelow hargs f (.refl h.refl f.id) self

/-- **A call of one and the same value.** -/
theorem call (v : Value) : Rel V (v.call below args) (v.call below' args') :=
  h.callOf (hbelow.arguments.values hargs) (h.refl v) fun hf hg =>
    Option.some.inj (hf.symm.trans hg) ▸ h.invoke hbelow hargs _ _

end Congruence

end Mustache
