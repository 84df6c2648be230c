import Mustache.Proofs.Session.Arity
import Mustache.Proofs.Veil.Operations

/-!
# Calls and names behind the veil

Two sessions of which the frames differ behind the veil only stay so, whatever is called in them and
whatever names are looked up: answers differ behind the veil only, and faults are told alike. This
is a relation of actions that calls and names respect; what lies a level deeper is assumed to do the
same. One and the same value, called with the same arguments, even answers the same on both sides,
and this is needed of inspection.

## Main definitions

* `Mustache.Session.Veiled` — sessions with such frames.
* `Mustache.Veils` — actions that end alike in such sessions.
* `Mustache.Below.Veils` — the same for what can be asked of the next level.

## Main results

* `Mustache.Veils.congruence`, `Mustache.Veils.tolerance` — relations that calls respect.
* `Mustache.veils_invoke`, `Mustache.Value.Veiled.call` — calls.
* `Mustache.Value.Veiled.inspect` — inspection.
* `Mustache.Value.Veiled.memberNamed`, `Mustache.veils_findFiltered` — names.
-/

namespace Mustache

/-! ## Sessions -/

/-- **Sessions of which the frames differ behind the veil only**, and which differ in nothing else
but the traces of calls. -/
abbrev Session.Veiled (s s' : Session) : Prop := s.Apart (List.Forall₂ Value.Veiled) s'

namespace Session.Veiled

variable {s s' : Session}

/-- All but the frames and the traces may be changed in the same way. -/
theorem update (hs : s.Veiled s') {f : Session → Session} (hframes : ∀ s, (f s).frames = s.frames)
    (hf : ∀ s frames calls, f { s with frames, calls } = { f s with frames, calls })
    (hcalls : ∀ s, (f s).calls = s.calls) : (f s).Veiled (f s') := by
  refine ⟨?_, ?_⟩
  · rw [hframes, hframes]
    exact hs.frames
  · rw [hframes, hcalls, ← hf, ← hs.rest]

end Session.Veiled

/-- **Loading does not lift the veil.** -/
theorem isUnread_veiled : IsUnread Session.Veiled fun _ => True where
  surroundings hs := by rw [hs.rest]; rfl
  within hs x := hs.update (f := fun s => s.within x) (fun _ => rfl) (fun _ _ _ => rfl) fun _ => rfl
  trace hs _ := ⟨hs.frames, by rw [hs.rest]⟩
  cache hs cache :=
    hs.update (f := fun s => s.mapEngine fun e => { e with cache }) (fun _ => rfl)
      (fun _ _ _ => rfl) fun _ => rfl
  engine {s s'} hs := by
    rw [hs.rest]
    show Option.Rel _ s.engine s.engine
    cases s.engine with
    | none => exact .none
    | some e => exact .some ⟨trivial, e.helpers, rfl⟩
  nextTemplate hs := by rw [hs.rest]
  number hs n :=
    hs.update (f := fun s => { s with nextTemplate := n }) (fun _ => rfl) (fun _ _ _ => rfl)
      fun _ => rfl
  ask hs x :=
    hs.update (f := fun s => { s with asked := x :: s.asked }) (fun _ => rfl) (fun _ _ _ => rfl)
      fun _ => rfl
  template hs _ _ key t _ :=
    hs.update (f := fun s => s.mapEngine fun e => { e with templates := e.templates ++ [(key, t)] })
      (fun _ => rfl) (fun _ _ _ => rfl) fun _ => rfl
  lambdas hs f _ :=
    hs.update (f := fun s => s.mapEngine fun e => { e with lambdas := f e }) (fun _ => rfl)
      (fun _ _ _ => rfl) fun _ => rfl

/-! ## Actions -/

section

variable {α β : Type} {V : α → α → Prop} {W : β → β → Prop}

/-- **Actions that end alike** in sessions of which the frames differ behind the veil only. -/
def Veils (V : α → α → Prop) (act act' : Action α) : Prop :=
  ∀ s s' : Session, s.Veiled s' → SimilarEnd (List.Forall₂ Value.Veiled) V (act s) (act' s')

/-- Faults that are told alike are expected alike. -/
theorem Expected.covers_of_alike {e e' : Fault} (h : e.Alike e') (x : Expected) :
    x.covers e' = x.covers e := by
  cases h with
  | refl => rfl
  | unrenderable => cases x <;> rfl

namespace Veils

variable {act act' : Action α}

theorem pure {a b : α} (h : V a b) : Veils V (Pure.pure a) (Pure.pure b) :=
  fun _ _ hs => .ok h hs

theorem throw {e e' : Fault} (h : e.Alike e') :
    Veils V (MonadExcept.throw e) (MonadExcept.throw e') :=
  fun _ _ hs => .error h hs

/-- The same fault on both sides. -/
theorem fault (e : Fault) : Veils V (MonadExcept.throw e) (MonadExcept.throw e) := throw (.refl e)

theorem bind {next next' : α → Action β} (h : Veils V act act')
    (hnext : ∀ a b, V a b → Veils W (next a) (next' b)) :
    Veils W (act >>= next) (act' >>= next') := by
  intro s s' hs
  have hfirst := h s s' hs
  generalize hact : act s = r at hfirst
  generalize hact' : act' s' = r' at hfirst
  cases hfirst with
  | ok answers sessions =>
    rw [bind_of_ok hact, bind_of_ok hact']
    exact hnext _ _ answers _ _ sessions
  | error faults sessions =>
    rw [bind_of_error hact, bind_of_error hact']
    exact .error faults sessions

/-- Both sessions are looked at. -/
theorem get {next next' : Session → Action α}
    (h : ∀ s s' : Session, s.Veiled s' → Veils V (next s) (next' s')) :
    Veils V (MonadState.get >>= next) (MonadState.get >>= next') :=
  fun s s' hs => h s s' hs s s' hs

/-- An action that is oblivious of the difference answers the same. -/
theorem of_oblivious {act : Action α} (h : Oblivious Session.Veiled act) : Veils Eq act act := by
  intro s s' hs
  have hsame := h s s' hs
  generalize act s = r at hsame ⊢
  generalize act s' = r' at hsame ⊢
  cases hsame with
  | ok sessions => exact .ok rfl sessions
  | error sessions => exact .error (.refl _) sessions

theorem mono {W : α → α → Prop} (h : Veils V act act') (hVW : ∀ a b, V a b → W a b) :
    Veils W act act' :=
  fun s s' hs => (h s s' hs).mono (fun _ _ hframes => hframes) hVW

/-- A fault that is expected on one side is expected on the other one. -/
theorem attempt (x : Expected) (h : Veils V act act') :
    Veils (Option.Rel V) (attempt x act) (attempt x act') := by
  intro s s' hs
  have hsame := h s s' hs
  unfold Mustache.attempt
  generalize act s = r at hsame ⊢
  generalize act' s' = r' at hsame ⊢
  cases hsame with
  | ok answers sessions => exact .ok (.some answers) sessions
  | error faults sessions =>
    dsimp only
    rw [Expected.covers_of_alike faults]
    split
    · exact .ok .none sessions
    · exact .error faults sessions

end Veils

end

/-- Calls are noted down on both sides. -/
theorem veils_trace (args args' : List Value) :
    Veils Eq (modify fun s : Session => { s with calls := args :: s.calls })
      (modify fun s : Session => { s with calls := args' :: s.calls }) :=
  fun _ _ hs => .ok rfl ⟨hs.frames, by rw [hs.rest]⟩

/-- **To end alike is a relation that calls respect**, if values differ behind the veil. -/
theorem Veils.congruence : Congruence Fault.Alike Value.Veiled Veils where
  toOperable := Value.operable_veiled
  pure _ _ _ hab := .pure hab
  throw := .throw
  bind _ _ _ _ _ := .bind
  freshId := (of_oblivious (oblivious_freshId isUnread_veiled.toIsHidden)).mono fun _ _ hid =>
    Value.Veiled.numbersAlike_iff.2 hid
  countUp hid := Value.Veiled.numbersAlike_iff.1 hid ▸
    .of_oblivious (oblivious_countUp isUnread_veiled.toIsHidden _)
  trace _ := veils_trace _ _

/-- It is also one if values are the same, and it bears expected faults. -/
theorem Veils.tolerance : Tolerance Fault.Alike Eq Veils where
  toOperable := Value.operable_eq .refl
  pure _ _ _ hab := .pure hab
  throw := .throw
  bind _ _ _ _ _ := .bind
  freshId := Veils.congruence.freshId.mono fun _ _ hid =>
    Value.numbersAlike_eq_eq ▸ Value.Veiled.numbersAlike_iff.1 hid
  countUp {id _} hid := by
    rw [Value.numbersAlike_eq_eq] at hid
    exact hid ▸ Veils.congruence.countUp (Value.Veiled.numbersAlike_iff.2 (rfl : id = id))
  trace _ := veils_trace _ _
  attempt _ x _ _ h := h.attempt x

/-- Two lists of values that differ behind the veil only. -/
abbrev AreVeiled (vs ws : List Value) : Prop := List.Forall₂ Value.Veiled vs ws

/-! ## Calls -/

/-- **Whatever is asked of the next level ends alike**: calls of callables that act alike, with
arguments that differ behind the veil only, and the rendering of templates. A call of one and the
same callable with the same arguments answers the same. -/
structure Below.Veils (below : Below) : Prop where
  call : ∀ {f g : Callable × Option Object}, ActAlike Value.Veiled f g → ∀ {args args'},
    AreVeiled args args' →
      Mustache.Veils Value.Veiled (below.call f.1 f.2 args) (below.call g.1 g.2 args')
  same : ∀ f self args, Mustache.Veils Eq (below.call f self args) (below.call f self args)
  render : ∀ t, Mustache.Veils Eq (below.render t) (below.render t)

/-- **A member in front of the veil**, of two objects that differ behind it. -/
theorem Object.SameInFront.member {o o' : Object} (same : o.SameInFront Value.Veiled o')
    {call : Callable → Option Object → List Value → Action Value}
    (hcall : ∀ {f g : Callable × Option Object}, ActAlike Value.Veiled f g →
      Veils Value.Veiled (call f.1 f.2 []) (call g.1 g.2 []))
    {name : String} (hname : Value.isPrivate name = false) :
    Veils Value.Veiled (o.member call name) (o'.member call name) := by
  have hproperties := same.properties name hname
  have hattributes := same.attributes name hname
  have hmethods := same.methods name hname
  have hstatics := same.statics name hname
  unfold Object.member
  generalize o.properties.lookup name = x at hproperties ⊢
  generalize o'.properties.lookup name = y at hproperties ⊢
  cases hproperties with
  | some alike => exact hcall alike
  | none =>
    generalize o.attributes.lookup name = x at hattributes ⊢
    generalize o'.attributes.lookup name = y at hattributes ⊢
    cases hattributes with
    | some hv => exact .pure hv
    | none =>
      generalize o.methods.lookup name = x at hmethods ⊢
      generalize o'.methods.lookup name = y at hmethods ⊢
      cases hmethods with
      | some alike => exact .pure (Value.Step.method alike).veiled
      | none =>
        generalize o.statics.lookup name = x at hstatics ⊢
        generalize o'.statics.lookup name = y at hstatics ⊢
        cases hstatics with
        | some alike => exact .pure (Value.Step.function alike).veiled
        | none => exact .fault _

section

variable {below : Below} (h : below.Veils) {v w : Value}

include h

theorem veils_renderText (hv : v.Veiled w) (delims : Option String) :
    Veils Eq (renderText below v delims) (renderText below w delims) := by
  refine Veils.tolerance.bindSame (Veils.tolerance.liftFault .same (hv.write {})) fun source => ?_
  exact Veils.tolerance.bindSame (.of_oblivious (isUnread_veiled.loadText source delims))
    fun t => h.render t

/-- The name of the member that renders is in front of the veil. -/
theorem veils_renderThrough (hv : v.Veiled w) {text text' : Action Value}
    (htext : Veils Value.Veiled text text') :
    Veils Value.Veiled (renderThrough below v text) (renderThrough below w text') := by
  have hname : Value.isPrivate "render" = false := by decide +kernel
  refine Veils.congruence.renderThroughOf _ _ (fun ho => ?_) (fun hf hv => ?_) (fun hm hv => ?_)
    (veils_renderText h) hv htext
  · cases ho.step with
    | simple simple => simp [Value.isSimple] at simple
    | object same => exact same.member (fun alike => h.call alike .nil) hname
  · cases hf.step with
    | simple simple => simp [Value.isSimple] at simple
    | function alike => exact h.call alike (.cons hv .nil)
  · cases hm.step with
    | simple simple => simp [Value.isSimple] at simple
    | method alike => exact h.call alike (.cons hv .nil)

/-- The level and itself are related as far as calls can tell, also if values differ behind the
veil. -/
theorem Below.Veils.congruent : below.Congruent Value.Veiled Mustache.Veils AreVeiled below :=
  Value.operable_veiled.congruent
    (fun f self _ _ hargs => h.call (f := (f, self)) (.refl .refl _) hargs)
    (veils_renderThrough h)

/-- So they are if values are the same. -/
theorem Below.Veils.congruentSame : below.Congruent Eq Mustache.Veils Eq below :=
  Veils.tolerance.congruent h.same fun v => veils_renderText h (.refl v)

end

/-- **A call**, of callables that act alike and with arguments that differ behind the veil only.

**Proof sketch.** The arguments are changed first, for one and the same callable and object; then
the callable with its object is, for one and the same arguments. -/
theorem veils_invoke {depth : Nat} (h : (level depth).Veils) {f g : Callable × Option Object}
    (alike : ActAlike Value.Veiled f g) {args args' : List Value} (hargs : AreVeiled args args') :
    Veils Value.Veiled (f.1.invoke (level depth) f.2 args)
      (g.1.invoke (level depth) g.2 args') := by
  intro s s' hs
  have hchanged := Veils.congruence.invoke h.congruent hargs f.1 f.2 s s' hs
  refine (hchanged.comp (alike.ends depth args' s')).mono ?_ ?_
  · rintro frames _ ⟨frames', hframes, rfl⟩
    exact hframes
  · rintro v w ⟨u, hvu, huw⟩
    exact hvu.trans huw

namespace Value.Veiled

variable {depth : Nat} (h : (level depth).Veils) {v w : Value}

include h

/-- **Inspection finds the same signature.**

**Proof sketch.** An object is inspected in the other session first, and this is one and the same
object. Then the objects are changed, in one and the same session. -/
theorem inspect (hv : v.Veiled w) :
    Veils Eq (v.inspect (level depth)) (w.inspect (level depth)) := by
  have hsame := Veils.tolerance.inspect h.congruentSame v
  by_cases hobject : ∃ o, v = .object o
  · obtain ⟨o, rfl⟩ := hobject
    cases hv.step with
    | simple simple => simp [isSimple] at simple
    | object same =>
      intro s s' hs
      refine ((hsame s s' hs).comp (same.inspection depth s')).mono ?_ ?_
      · rintro frames _ ⟨frames', hframes, rfl⟩
        exact hframes
      · rintro sig _ ⟨_, rfl, rfl⟩
        rfl
  · have hv' : ∀ o, v ≠ .object o := fun o ho => hobject ⟨o, ho⟩
    have hw' : ∀ o, w ≠ .object o := by
      rintro o rfl
      cases hv.step with
      | simple => exact hv' o rfl
      | object => exact hv' _ rfl
    rw [inspect_of_no_object hv', inspect_of_no_object hw', hv.shape.ownSignature_eq]
    exact .pure rfl

variable {args args' : List Value} (hargs : AreVeiled args args')

include hargs

/-- **A call of a value.** -/
theorem call (hv : v.Veiled w) :
    Veils Value.Veiled (v.call (level depth) args) (w.call (level depth) args') := by
  refine Veils.congruence.callOf hargs hv fun {f g} hf hg => ?_
  have hcallee := hv.callee?_alike
  rw [hf, hg] at hcallee
  cases hcallee with
  | some alike => exact veils_invoke h alike hargs

theorem callLambda (hv : v.Veiled w) :
    Veils Value.Veiled (v.callLambda (level depth) args) (w.callLambda (level depth) args') :=
  Veils.congruence.callLambdaOf hargs.length_eq.symm (hv.inspect h) fun n =>
    hv.call h (List.forall₂_take n hargs)

end Value.Veiled

/-! ## Names -/

section

variable {depth : Nat} (h : (level depth).Veils) {v w : Value}

include h

namespace Value.Veiled

theorem member (hv : v.Veiled w) {name : String} (hname : isPrivate name = false) :
    Veils Value.Veiled (v.member (level depth) name) (w.member (level depth) name) := by
  cases hv.step with
  | @simple v simple =>
    cases v with
    | type id className => exact Veils.congruence.ite (.pure (.refl _)) (.fault _)
    | object => simp [isSimple] at simple
    | _ => exact .fault _
  | object same => exact same.member (fun alike => veils_invoke h alike .nil) hname
  | _ => exact .fault _

/-- **What a name stands for in a value.** A name behind the veil stands for nothing, and every
other name for members that differ behind the veil only. -/
theorem memberNamed (hv : v.Veiled w) (name : String) :
    Veils Value.Veiled (v.memberNamed (level depth) name) (w.memberNamed (level depth) name) := by
  have hmethod {o o' : Object} {f g : Callable} (hm : (method o f).Veiled (method o' g)) :
      Veils Value.Veiled (f.invoke (level depth) (some o) [])
        (g.invoke (level depth) (some o') []) := by
    cases hm.step with
    | simple simple => simp [isSimple] at simple
    | method alike => exact veils_invoke h alike .nil
  exact Veils.congruence.memberNamedOf hv hmethod name fun hname =>
    .attempt .noAttribute (hv.member h hname)

end Value.Veiled

/-- **A name is looked up**, or a path is followed. -/
theorem veils_findName (name : String) :
    Veils Value.Veiled (findName (level depth) name) (findName (level depth) name) := by
  have hmember {v w : Value} (hv : v.Veiled w) := hv.memberNamed h
  refine Veils.congruence.findName _ _ hmember (.get fun s s' hs => .pure ?_)
    (fun name => .get fun s s' hs => Veils.congruence.findIn _ _ hmember name hs.frames) name
  have hframes := hs.frames
  generalize s.frames = frames at hframes ⊢
  generalize s'.frames = frames' at hframes ⊢
  cases hframes with
  | nil => exact .refl _
  | cons hv _ => exact hv

/-- **The value of a tag** differs behind the veil only. -/
theorem veils_findFiltered (site : FilterSite) :
    Veils Value.Veiled (findFiltered (level depth) site) (findFiltered (level depth) site) :=
  Veils.congruence.findFiltered _ _ (veils_findName h)
    (fun hfg hv => hfg.call h (.cons hv .nil)) (fun _ => .refl _) rfl rfl

end

end Mustache
