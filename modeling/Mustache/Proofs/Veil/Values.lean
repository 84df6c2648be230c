import Mathlib.Logic.Relation
import Mustache.Proofs.Render.Oblivious
import Mustache.Proofs.Session.Operable

/-!
# Values that differ behind the veil

Names with a leading underscore are out of reach for templates. Two values are the same in front of
this veil if they differ only in such members of objects, at any depth, and if nothing that can be
called tells them apart: methods and properties answer the same with one object and with the other.
The signature of an object is among the members behind the veil, for an object may state one, or
wrap the value that has it. So inspection must not tell the objects apart, either.

## Main definitions

* `Mustache.Fault.Alike` — faults that are told alike.
* `Mustache.SimilarEnd` — ends of actions with related answers.
* `Mustache.ActAlike` — callables that act alike.
* `Mustache.Object.SameInFront` — objects with the same members in front of the veil.
* `Mustache.Value.Veiled` — values that differ behind the veil only.

## Main results

* `Mustache.Fault.Alike.message?_eq` — the messages are the same.
* `Mustache.Value.veiled_iff_step` — such values are made of such values.
* `Mustache.Value.Veiled.refl`, `Mustache.Value.Veiled.trans` — values that are the same.
* `Mustache.Value.Veiled.shape`, `Mustache.Value.Veiled.quoted_eq` — such values are of one shape,
  and shown alike.

## Implementation notes

A method may answer with other methods of the same object, so that the values cannot be compared by
recursion on them alone. They differ behind the veil only if some relation says so that holds of
all that can be got from them.
-/

namespace Mustache

/-! ## Faults -/

/-- **Faults that are told alike**: the same, but for values that are shown in the same way. -/
inductive Fault.Alike : Fault → Fault → Prop
  | refl (e : Fault) : Alike e e
  | unrenderable {u : Unrenderable} {values : List (String × Value)}
    (shown : values.map Unrenderable.valueLine = u.values.map Unrenderable.valueLine) :
    Alike (.template (.unrenderable u)) (.template (.unrenderable { u with values }))

namespace Fault.Alike

theorem trans {e e' e'' : Fault} (h : e.Alike e') (h' : e'.Alike e'') : e.Alike e'' := by
  cases h with
  | refl => exact h'
  | unrenderable shown =>
    cases h' with
    | refl => exact .unrenderable shown
    | unrenderable shown' => exact .unrenderable (shown'.trans shown)

/-- **The messages are the same.** -/
theorem message?_eq {e e' : Fault} (h : e.Alike e') : e'.message? = e.message? := by
  cases h with
  | refl => rfl
  | @unrenderable u values shown =>
    have hempty : values.isEmpty = u.values.isEmpty := by
      rw [← List.isEmpty_map (f := Unrenderable.valueLine), shown, List.isEmpty_map]
    show some (Unrenderable.message { u with values }) = some u.message
    unfold Unrenderable.message Unrenderable.parts
    dsimp only
    rw [hempty, shown]
    rfl

end Fault.Alike

/-! ## Ends of actions -/

/-- Sessions with related frames, which differ in nothing else but the traces of calls. -/
structure Session.Apart (F : List Value → List Value → Prop) (s s' : Session) : Prop where
  frames : F s.frames s'.frames
  rest : s' = { s with frames := s'.frames, calls := s'.calls }

theorem Session.Apart.refl (s : Session) : s.Apart Eq s := ⟨rfl, rfl⟩

theorem Session.Apart.comp {F G : List Value → List Value → Prop} {s s' s'' : Session}
    (h : s.Apart F s') (h' : s'.Apart G s'') : s.Apart (Relation.Comp F G) s'' :=
  ⟨⟨_, h.frames, h'.frames⟩, by rw [h'.rest, h.rest]⟩

section

variable {α β γ : Type} {F G : List Value → List Value → Prop} {V W : α → β → Prop}

/-- **Ends with related answers**, or with faults that are told alike, in sessions with related
frames. -/
inductive SimilarEnd (F : List Value → List Value → Prop) (V : α → β → Prop) :
    EStateM.Result Fault Session α → EStateM.Result Fault Session β → Prop
  | ok {a : α} {b : β} {s s' : Session} (answers : V a b) (sessions : s.Apart F s') :
    SimilarEnd F V (.ok a s) (.ok b s')
  | error {e e' : Fault} {s s' : Session} (faults : e.Alike e') (sessions : s.Apart F s') :
    SimilarEnd F V (.error e s) (.error e' s')

namespace SimilarEnd

theorem refl {V : α → α → Prop} (hV : ∀ a, V a a) (r : EStateM.Result Fault Session α) :
    SimilarEnd Eq V r r := by
  cases r with
  | ok a s => exact .ok (hV a) (.refl s)
  | error e s => exact .error (.refl e) (.refl s)

theorem mono {r : EStateM.Result Fault Session α} {r' : EStateM.Result Fault Session β}
    (h : SimilarEnd F V r r') (hF : ∀ frames frames', F frames frames' → G frames frames')
    (hV : ∀ a b, V a b → W a b) : SimilarEnd G W r r' := by
  cases h with
  | ok answers sessions => exact .ok (hV _ _ answers) ⟨hF _ _ sessions.frames, sessions.rest⟩
  | error faults sessions => exact .error faults ⟨hF _ _ sessions.frames, sessions.rest⟩

theorem comp {U : β → γ → Prop} {r : EStateM.Result Fault Session α}
    {r' : EStateM.Result Fault Session β} {r'' : EStateM.Result Fault Session γ}
    (h : SimilarEnd F V r r') (h' : SimilarEnd G U r' r'') :
    SimilarEnd (Relation.Comp F G) (Relation.Comp V U) r r'' := by
  cases h with
  | ok answers sessions =>
    cases h' with
    | ok answers' sessions' => exact .ok ⟨_, answers, answers'⟩ (sessions.comp sessions')
  | error faults sessions =>
    cases h' with
    | error faults' sessions' => exact .error (faults.trans faults') (sessions.comp sessions')

end SimilarEnd

end

/-! ## Values -/

/-- **Callables that act alike**, each for an object or for none: whenever they are called with the
same arguments, they end with related answers, and in sessions that differ in the traces of calls
only. -/
structure ActAlike (S : Value → Value → Prop) (f g : Callable × Option Object) : Prop where
  signature : g.1.signature = f.1.signature
  ends : ∀ (depth : Nat) (args : List Value) (s : Session),
    SimilarEnd Eq S (f.1.invoke (level depth) f.2 args s) (g.1.invoke (level depth) g.2 args s)

/-- **Objects with the same members in front of the veil**: of the same class, with the same text,
and with related attributes and alike methods, functions and properties of every name without a
leading underscore, and with the same signature as far as inspection finds one. -/
structure Object.SameInFront (S : Value → Value → Prop) (o o' : Object) : Prop where
  className : o'.className = o.className
  shown : o'.shown = o.shown
  attributes : ∀ name, Value.isPrivate name = false →
    Option.Rel S (o.attributes.lookup name) (o'.attributes.lookup name)
  properties : ∀ name, Value.isPrivate name = false →
    Option.Rel (fun f g => ActAlike S (f, some o) (g, some o')) (o.properties.lookup name)
      (o'.properties.lookup name)
  methods : ∀ name, Value.isPrivate name = false →
    Option.Rel (fun f g => ActAlike S (f, some o) (g, some o')) (o.methods.lookup name)
      (o'.methods.lookup name)
  statics : ∀ name, Value.isPrivate name = false →
    Option.Rel (fun f g => ActAlike S (f, none) (g, none)) (o.statics.lookup name)
      (o'.statics.lookup name)
  call : Option.Rel (fun f g => ActAlike S (f, some o) (g, some o')) o.call o'.call
  inspection : ∀ (depth : Nat) (s : Session), SimilarEnd Eq Eq
    (Value.inspect (level depth) (.object o) s) (Value.inspect (level depth) (.object o') s)

namespace Value

/-- Values that are not made of other values, and cannot be called, classes apart. -/
def isSimple : Value → Bool
  | list _ | tuple _ | dict _ | function _ | method _ _ | object _ => false
  | _ => true

/-- **Values of one kind**, given what relates the values that they are made of. The keys of tables
are the same. -/
inductive Step (S : Value → Value → Prop) : Value → Value → Prop
  | simple {v : Value} (simple : v.isSimple = true) : Step S v v
  | list {vs ws : List Value} (items : List.Forall₂ S vs ws) : Step S (.list vs) (.list ws)
  | tuple {vs ws : List Value} (items : List.Forall₂ S vs ws) : Step S (.tuple vs) (.tuple ws)
  | dict {es fs : Entries} (entries : List.Forall₂ (fun e f => f.1 = e.1 ∧ S e.2 f.2) es fs) :
    Step S (.dict es) (.dict fs)
  | function {f g : Callable} (alike : ActAlike S (f, none) (g, none)) :
    Step S (.function f) (.function g)
  | method {o o' : Object} {f g : Callable} (alike : ActAlike S (f, some o) (g, some o')) :
    Step S (.method o f) (.method o' g)
  | object {o o' : Object} (same : o.SameInFront S o') : Step S (.object o) (.object o')

/-- **Values that differ behind the veil only**: some relation holds of them, and holds only of
values that are made of values of which it holds. -/
def Veiled (v w : Value) : Prop := ∃ S : Value → Value → Prop, (∀ v w, S v w → Step S v w) ∧ S v w

end Value

/-! ## The relation unfolded -/

section

variable {S T : Value → Value → Prop}

theorem optionRel_mono {α β : Type} {V W : α → β → Prop} {x : Option α} {y : Option β}
    (hV : ∀ a b, V a b → W a b) (h : Option.Rel V x y) : Option.Rel W x y := by
  cases h with
  | none => exact .none
  | some h => exact .some (hV _ _ h)

theorem ActAlike.mono {f g : Callable × Option Object} (h : ActAlike S f g)
    (hS : ∀ v w, S v w → T v w) : ActAlike T f g :=
  ⟨h.signature, fun depth args s => (h.ends depth args s).mono (fun _ _ h => h) hS⟩

theorem ActAlike.refl (hS : ∀ v, S v v) (f : Callable × Option Object) : ActAlike S f f :=
  ⟨rfl, fun _ _ _ => .refl hS _⟩

/-- Ends with the same answers, one after the other. -/
theorem SimilarEnd.compSame {α : Type} {r r' r'' : EStateM.Result Fault Session α}
    (h : SimilarEnd Eq Eq r r') (h' : SimilarEnd Eq Eq r' r'') : SimilarEnd Eq Eq r r'' :=
  (h.comp h').mono (fun _ _ ⟨_, hframes, hframes'⟩ => hframes.trans hframes')
    fun _ _ ⟨_, hanswer, hanswer'⟩ => hanswer.trans hanswer'

theorem ActAlike.comp {f g k : Callable × Option Object} (h : ActAlike S f g)
    (h' : ActAlike T g k) : ActAlike (Relation.Comp S T) f k := by
  refine ⟨h'.signature.trans h.signature, fun depth args s => ?_⟩
  refine ((h.ends depth args s).comp (h'.ends depth args s)).mono ?_ fun _ _ h => h
  rintro _ _ ⟨_, rfl, rfl⟩
  rfl

namespace Value

theorem Step.mono (hS : ∀ v w, S v w → T v w) {v w : Value} (h : Step S v w) : Step T v w := by
  have hrel {self self' : Option Object} {x y : Option Callable}
      (h : Option.Rel (fun f g => ActAlike S (f, self) (g, self')) x y) :
      Option.Rel (fun f g => ActAlike T (f, self) (g, self')) x y :=
    optionRel_mono (fun _ _ alike => alike.mono hS) h
  cases h with
  | simple simple => exact .simple simple
  | list items => exact .list (items.imp hS)
  | tuple items => exact .tuple (items.imp hS)
  | dict entries => exact .dict (entries.imp fun _ _ h => ⟨h.1, hS _ _ h.2⟩)
  | function alike => exact .function (alike.mono hS)
  | method alike => exact .method (alike.mono hS)
  | object same =>
    exact .object
      { className := same.className
        shown := same.shown
        attributes := fun name h => optionRel_mono hS (same.attributes name h)
        properties := fun name h => hrel (same.properties name h)
        methods := fun name h => hrel (same.methods name h)
        statics := fun name h => hrel (same.statics name h)
        call := hrel same.call
        inspection := same.inspection }

/-- **Such values are made of such values.** -/
theorem veiled_iff_step {v w : Value} : Veiled v w ↔ Step Veiled v w := by
  have hstep {v w : Value} (h : Veiled v w) : Step Veiled v w := by
    obtain ⟨S, hS, hvw⟩ := h
    exact (hS v w hvw).mono fun v w hvw => ⟨S, hS, hvw⟩
  exact ⟨hstep, fun h => ⟨Step Veiled, fun _ _ h => h.mono fun _ _ => hstep, h⟩⟩

alias ⟨Veiled.step, Step.veiled⟩ := veiled_iff_step

theorem Step.refl (hS : ∀ v, S v v) (v : Value) : Step S v v := by
  have hcallable {self : Option Object} (x : Option Callable) :
      Option.Rel (fun f g => ActAlike S (f, self) (g, self)) x x := by
    cases x with
    | none => exact .none
    | some f => exact .some (.refl hS (f, self))
  cases v with
  | list vs => exact .list (List.forall₂_same.2 fun v _ => hS v)
  | tuple vs => exact .tuple (List.forall₂_same.2 fun v _ => hS v)
  | dict es => exact .dict (List.forall₂_same.2 fun e _ => ⟨rfl, hS e.2⟩)
  | function f => exact .function (.refl hS (f, none))
  | method o f => exact .method (.refl hS (f, some o))
  | object o =>
    have hvalue (x : Option Value) : Option.Rel S x x := by
      cases x with
      | none => exact .none
      | some v => exact .some (hS v)
    exact .object ⟨rfl, rfl, fun _ _ => hvalue _, fun _ _ => hcallable _, fun _ _ => hcallable _,
      fun _ _ => hcallable _, hcallable _, fun _ _ => .refl (fun _ => rfl) _⟩
  | _ => exact .simple rfl

theorem Step.comp {u v w : Value} (h : Step S u v) (h' : Step T v w) :
    Step (Relation.Comp S T) u w := by
  have hforall {α : Type} {V W : α → α → Prop} {as bs cs : List α} (h : List.Forall₂ V as bs)
      (h' : List.Forall₂ W bs cs) : List.Forall₂ (Relation.Comp V W) as cs := by
    induction h generalizing cs with
    | nil =>
      cases h'
      exact .nil
    | cons hab _ ih =>
      cases h' with
      | cons hbc h' => exact .cons ⟨_, hab, hbc⟩ (ih h')
  have hrel {α : Type} {U V W : α → α → Prop} (hcomp : ∀ a b c, U a b → V b c → W a c)
      {x y z : Option α} (h : Option.Rel U x y) (h' : Option.Rel V y z) : Option.Rel W x z := by
    cases h with
    | none =>
      cases h'
      exact .none
    | some h =>
      cases h' with
      | some h' => exact .some (hcomp _ _ _ h h')
  cases h with
  | simple simple =>
    cases h' with
    | simple _ => exact .simple simple
    | _ => simp [isSimple] at simple
  | list items =>
    cases h' with
    | simple simple => simp [isSimple] at simple
    | list items' => exact .list (hforall items items')
  | tuple items =>
    cases h' with
    | simple simple => simp [isSimple] at simple
    | tuple items' => exact .tuple (hforall items items')
  | dict entries =>
    cases h' with
    | simple simple => simp [isSimple] at simple
    | dict entries' =>
      refine .dict ((hforall entries entries').imp ?_)
      rintro _ _ ⟨_, ⟨hkey, hvalue⟩, hkey', hvalue'⟩
      exact ⟨hkey'.trans hkey, _, hvalue, hvalue'⟩
  | function alike =>
    cases h' with
    | simple simple => simp [isSimple] at simple
    | function alike' => exact .function (alike.comp alike')
  | method alike =>
    cases h' with
    | simple simple => simp [isSimple] at simple
    | method alike' => exact .method (alike.comp alike')
  | object same =>
    cases h' with
    | simple simple => simp [isSimple] at simple
    | object same' =>
      exact .object
        { className := same'.className.trans same.className
          shown := same'.shown.trans same.shown
          attributes := fun name h =>
            hrel (fun _ b _ h h' => ⟨b, h, h'⟩) (same.attributes name h) (same'.attributes name h)
          properties := fun name h =>
            hrel (fun _ _ _ h h' => h.comp h') (same.properties name h) (same'.properties name h)
          methods := fun name h =>
            hrel (fun _ _ _ h h' => h.comp h') (same.methods name h) (same'.methods name h)
          statics := fun name h =>
            hrel (fun _ _ _ h h' => h.comp h') (same.statics name h) (same'.statics name h)
          call := hrel (fun _ _ _ h h' => h.comp h') same.call same'.call
          inspection := fun depth s =>
            (same.inspection depth s).compSame (same'.inspection depth s) }

namespace Veiled

theorem refl (v : Value) : Veiled v v :=
  ⟨Eq, fun v _ h => h ▸ Step.refl (fun _ => rfl) v, rfl⟩

theorem trans {u v w : Value} (h : Veiled u v) (h' : Veiled v w) : Veiled u w := by
  refine ⟨Relation.Comp Veiled Veiled, ?_, v, h, h'⟩
  rintro u w ⟨v, h, h'⟩
  exact h.step.comp h'.step

/-- A simple value differs from itself only. -/
theorem eq_of_isSimple {v w : Value} (h : Veiled v w) (hv : v.isSimple = true) : w = v := by
  cases h.step with
  | simple => rfl
  | _ => simp [isSimple] at hv

end Veiled

/-- **Such values are of one shape.** -/
theorem Step.shape {V : Value → Value → Prop} {v w : Value} (h : Step V v w) : Shape V v w := by
  cases h with
  | simple => exact .same _
  | list items => exact .list items
  | tuple items => exact .tuple items
  | dict entries => exact .dict entries
  | function alike => exact .function alike.signature
  | method alike => exact .method alike.signature
  | @object o o' same =>
    have hcalled : o'.call.map Callable.signature = o.call.map Callable.signature := by
      have hcall := same.call
      generalize o.call = x at hcall ⊢
      generalize o'.call = y at hcall ⊢
      cases hcall with
      | none => rfl
      | some alike => exact congrArg some alike.signature
    exact .object same.className same.shown hcalled

namespace Veiled

variable {v w : Value}

theorem shape (h : v.Veiled w) : Shape Veiled v w := h.step.shape

/-! ## What is shown of such values -/

/-- **Such values are shown alike.** -/
theorem quoted_eq (h : v.Veiled w) : w.quoted = v.quoted := (shown_eq_of_shape shape v h).1

theorem isUnwritable_eq (h : v.Veiled w) : w.isUnwritable = v.isUnwritable :=
  (shown_eq_of_shape shape v h).2

/-! ## What is called -/

/-- What a call runs acts alike. -/
theorem callee?_alike (h : v.Veiled w) :
    Option.Rel (ActAlike Veiled) v.callee? w.callee? := by
  cases h.step with
  | @simple v simple =>
    have hnone : v.callee? = none := by cases v <;> first | rfl | simp [isSimple] at simple
    rw [hnone]
    exact .none
  | list items => exact .none
  | tuple items => exact .none
  | dict entries => exact .none
  | function alike => exact .some alike
  | method alike => exact .some alike
  | @object o o' same =>
    have hcall := same.call
    show Option.Rel _ (o.call.map fun f => (f, some o)) (o'.call.map fun f => (f, some o'))
    generalize o.call = x at hcall ⊢
    generalize o'.call = y at hcall ⊢
    cases hcall with
    | none => exact .none
    | some alike => exact .some alike

end Veiled

end Value

end

end Mustache
