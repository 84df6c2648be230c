import Mustache.Proofs.Session.Renumbered
import Mustache.Proofs.Session.TwinCalls

/-!
# Calls that keep no count

Two sessions may have made and counted different things before, so that their frames differ in
numbers, as will what is made in them from now on. As long as no call is counted, none of this
shows: whatever is called and looked up in them ends alike, but for numbers. What lies a level
deeper is assumed to do the same, and so is the loading of texts.

## Main definitions

* `Mustache.Session.Uncounted` — nothing has been counted from one session to a later one.
* `Mustache.Session.Renumbered` — sessions of which the frames differ in numbers only.
* `Mustache.Renumbers` — actions that end alike in such sessions if nothing is counted.
* `Mustache.Below.Renumbers` — the same for what can be asked of the next level.

## Main results

* `Mustache.Renumbers.congruence`, `Mustache.Renumbers.tolerance` — a relation that calls respect.
* `Mustache.Value.Renumbered.call`, `Mustache.Value.Renumbered.callLambda` — calls.
* `Mustache.renumbers_findFiltered` — names.
* `Mustache.Loader.renumbers_find` — loaders.
-/

namespace Mustache

/-! ## Sessions -/

/-- **Nothing has been counted** from a session to a later one, and only known sources have been
asked for. -/
structure Session.Uncounted (known : String → Prop) (s s' : Session) : Prop where
  asked : ∀ x ∈ s'.asked, known x
  counts : ∀ id, s'.countOf id ≤ s.countOf id

/-- If nothing has been counted in the end, nothing has been on the way. -/
theorem Session.Uncounted.split {known : String → Prop} {s s₁ s₂ : Session}
    (h : s.Uncounted known s₂) (hfirst : s.Kept s₁) (hsecond : s₁.Kept s₂) :
    s.Uncounted known s₁ ∧ s₁.Uncounted known s₂ :=
  ⟨⟨fun x hx => h.asked x (hsecond.asked hx),
      fun id => Nat.le_trans (hsecond.counts id) (h.counts id)⟩,
    h.asked, fun id => Nat.le_trans (h.counts id) (hfirst.counts id)⟩

/-- **Sessions of which the frames differ in numbers only**, with stores of one kind. -/
structure Session.Renumbered (P : Store → Prop) (s s' : Session) : Prop where
  frames : List.Forall₂ Value.Renumbered s.frames s'.frames
  store : P s.store
  store' : P s'.store

/-! ## Actions -/

section

variable {α β : Type}

/-- **Ends that are alike**: both well, with related answers, or both in faults that are expected
alike, and in sessions that differ as before. If a run has been cut short because a cache could not
be written, nothing is said of the other one; the second one is, only if it may be. -/
inductive RenumberedEnd (P : Store → Prop) (cached : Prop) (R : α → α → Prop) :
    EStateM.Result Fault Session α → EStateM.Result Fault Session α → Prop
  | ok {a a' : α} {s s' : Session} (answers : R a a') (sessions : s.Renumbered P s') :
    RenumberedEnd P cached R (.ok a s) (.ok a' s')
  | error {e e' : Fault} {s s' : Session} (faults : e.ExpectedAlike e')
    (sessions : s.Renumbered P s') : RenumberedEnd P cached R (.error e s) (.error e' s')
  | unwritten {e : Fault} {s : Session} {r : EStateM.Result Fault Session α}
    (unwritten : e.IsUnwritten) : RenumberedEnd P cached R (.error e s) r
  | unwritten' {e : Fault} {s : Session} {r : EStateM.Result Fault Session α}
    (unwritten : e.IsUnwritten) (may : cached) : RenumberedEnd P cached R r (.error e s)

/-- **Actions that end alike in sessions of which the frames differ in numbers only**, as long as
the first one counts nothing and asks for known sources only. -/
structure Renumbers (P : Store → Prop) (cached : Prop) (known : String → Prop) (R : α → α → Prop)
    (act act' : Action α) : Prop where
  keeps : Keeps act
  outcome : ∀ s s' : Session, s.Renumbered P s' → s.Uncounted known (sessionOf (act s)) →
    RenumberedEnd P cached R (act s) (act' s')

namespace Renumbers

variable {P : Store → Prop} {cached : Prop} {known : String → Prop} {R : α → α → Prop}
  {S : β → β → Prop} {act act' : Action α}

theorem pure {a a' : α} (h : R a a') : Renumbers P cached known R (Pure.pure a) (Pure.pure a') :=
  ⟨.pure a, fun _ _ hs _ => .ok h hs⟩

theorem throw {e e' : Fault} (h : e.ExpectedAlike e') :
    Renumbers P cached known R (MonadExcept.throw e) (MonadExcept.throw e') :=
  ⟨.throw e, fun _ _ hs _ => .error h hs⟩

/-- The same fault on both sides. -/
theorem fault (e : Fault) :
    Renumbers P cached known R (MonadExcept.throw e) (MonadExcept.throw e) :=
  throw (.refl e)

/-- **Actions in sequence**, for answers that are related. -/
theorem bindOn {next next' : α → Action β} (h : Renumbers P cached known R act act')
    (hkeeps : ∀ a, Keeps (next a))
    (hnext : ∀ a a', R a a' → Renumbers P cached known S (next a) (next' a')) :
    Renumbers P cached known S (act >>= next) (act' >>= next') := by
  refine ⟨.bind h.keeps hkeeps, fun s s' hs hcalm => ?_⟩
  have hkept := h.keeps s
  have hfirst := h.outcome s s' hs
  cases hact : act s with
  | ok a s₁ =>
    rw [hact] at hkept hfirst
    rw [bind_of_ok hact] at hcalm ⊢
    obtain ⟨hbefore, hafter⟩ := hcalm.split hkept (hkeeps a s₁)
    have hend := hfirst hbefore
    generalize hact' : act' s' = r at hend
    cases hend with
    | ok answers sessions =>
      rw [bind_of_ok hact']
      exact (hnext _ _ answers).outcome _ _ sessions hafter
    | unwritten' unwritten may =>
      rw [bind_of_error hact']
      exact .unwritten' unwritten may
  | error e s₁ =>
    rw [hact] at hfirst
    rw [bind_of_error hact] at hcalm ⊢
    have hend := hfirst hcalm
    generalize hact' : act' s' = r at hend
    cases hend with
    | error faults sessions =>
      rw [bind_of_error hact']
      exact .error faults sessions
    | unwritten unwritten => exact .unwritten unwritten
    | unwritten' unwritten may =>
      rw [bind_of_error hact']
      exact .unwritten' unwritten may

/-- Actions in sequence, if every answer is related to itself. -/
theorem bind (hR : ∀ a, R a a) {next next' : α → Action β} (h : Renumbers P cached known R act act')
    (hnext : ∀ a a', R a a' → Renumbers P cached known S (next a) (next' a')) :
    Renumbers P cached known S (act >>= next) (act' >>= next') :=
  h.bindOn (fun a => (hnext a a (hR a)).keeps) hnext

/-- The answers may be related in a weaker way. -/
theorem mono {S : α → α → Prop} (h : Renumbers P cached known R act act')
    (hRS : ∀ a a', R a a' → S a a') : Renumbers P cached known S act act' := by
  refine ⟨h.keeps, fun s s' hs hcalm => ?_⟩
  have hend := h.outcome s s' hs hcalm
  generalize act s = r at hend ⊢
  generalize act' s' = r' at hend ⊢
  cases hend with
  | ok answers sessions => exact .ok (hRS _ _ answers) sessions
  | error faults sessions => exact .error faults sessions
  | unwritten unwritten => exact .unwritten unwritten
  | unwritten' unwritten may => exact .unwritten' unwritten may

/-- What holds of every answer of the first action holds of the answers that are related. -/
theorem answers {Q : α → Prop} (h : Renumbers P cached known R act act')
    (hQ : ∀ s a s', act s = .ok a s' → Q a) :
    Renumbers P cached known (fun a a' => R a a' ∧ Q a) act act' := by
  refine ⟨h.keeps, fun s s' hs hcalm => ?_⟩
  have hend := h.outcome s s' hs hcalm
  generalize hact : act s = r at hend ⊢
  generalize act' s' = r' at hend ⊢
  cases hend with
  | ok answers sessions => exact .ok ⟨answers, hQ _ _ _ hact⟩ sessions
  | error faults sessions => exact .error faults sessions
  | unwritten unwritten => exact .unwritten unwritten
  | unwritten' unwritten may => exact .unwritten' unwritten may

/-- Both sessions are looked at. -/
theorem getFrames (next next' : List Value → Action α)
    (h : ∀ frames frames', List.Forall₂ Value.Renumbered frames frames' →
      Renumbers P cached known R (next frames) (next' frames')) :
    Renumbers P cached known R (MonadState.get >>= fun s : Session => next s.frames)
      (MonadState.get >>= fun s : Session => next' s.frames) :=
  ⟨.bind .get fun _ => (h _ _ (Value.operable_renumbered.reflList _)).keeps,
    fun s s' hs hcalm => (h _ _ hs.frames).outcome s s' hs hcalm⟩

/-- A change of the session that does not count. -/
theorem modifyGet {f : Session → α × Session} (hkeeps : ∀ s : Session, s.Kept (f s).2)
    (h : ∀ s s' : Session, s.Renumbered P s' →
      R (f s).1 (f s').1 ∧ (f s).2.Renumbered P (f s').2) :
    Renumbers P cached known R (MonadState.modifyGet f : Action α) (MonadState.modifyGet f) :=
  ⟨.modifyGet hkeeps, fun s s' hs _ => .ok (h s s' hs).1 (h s s' hs).2⟩

/-- Related frames are pushed, and taken off again. -/
theorem withFrame (h : Renumbers P cached known R act act') {v w : Value} (hv : v.Renumbered w) :
    Renumbers P cached known R (withFrame v act) (withFrame w act') := by
  refine ⟨h.keeps.withFrame v, fun s s' hs hcalm => ?_⟩
  have hinner := h.outcome { s with frames := v :: s.frames } { s' with frames := w :: s'.frames }
    ⟨.cons hv hs.frames, hs.store, hs.store'⟩
  have htail {s₁ s₁' : Session} (sessions : s₁.Renumbered P s₁') :
      Session.Renumbered P { s₁ with frames := s₁.frames.tail }
        { s₁' with frames := s₁'.frames.tail } := by
    refine ⟨?_, sessions.store, sessions.store'⟩
    have hframes := sessions.frames
    generalize s₁.frames = frames at hframes ⊢
    generalize s₁'.frames = frames' at hframes ⊢
    cases hframes with
    | nil => exact .nil
    | cons _ hframes => exact hframes
  unfold Mustache.withFrame at hcalm ⊢
  generalize act { s with frames := v :: s.frames } = r at hinner hcalm ⊢
  generalize act' { s' with frames := w :: s'.frames } = r' at hinner ⊢
  have hcalm' : Session.Uncounted known { s with frames := v :: s.frames } (sessionOf r) := by
    cases r <;> exact ⟨hcalm.asked, hcalm.counts⟩
  cases hinner hcalm' with
  | ok answers sessions => exact .ok answers (htail sessions)
  | error faults sessions => exact .error faults (htail sessions)
  | unwritten unwritten => exact .unwritten unwritten
  | unwritten' unwritten may => exact .unwritten' unwritten may

/-- A fault that is expected on one side is expected on the other. -/
theorem attempt (x : Expected) (h : Renumbers P cached known R act act') :
    Renumbers P cached known (Option.Rel R) (attempt x act) (attempt x act') := by
  refine ⟨h.keeps.attempt x, fun s s' hs hcalm => ?_⟩
  have hinner := h.outcome s s' hs
  unfold Mustache.attempt at hcalm ⊢
  generalize act s = r at hinner hcalm ⊢
  generalize act' s' = r' at hinner ⊢
  have hcalm' : s.Uncounted known (sessionOf r) := by
    cases r with
    | ok a s₁ => exact hcalm
    | error e s₁ => dsimp only at hcalm; split at hcalm <;> exact hcalm
  cases hinner hcalm' with
  | ok answers sessions => exact .ok (.some answers) sessions
  | error faults sessions =>
    dsimp only
    rw [faults x]
    split
    · exact .ok .none sessions
    · exact .error faults sessions
  | unwritten unwritten =>
    dsimp only
    rw [unwritten.covers x]
    exact .unwritten unwritten
  | unwritten' unwritten may =>
    dsimp only
    rw [unwritten.covers x]
    exact .unwritten' unwritten may

end Renumbers

end

/-! ## Calls -/

section

variable {P : Store → Prop} {cached : Prop} {known : String → Prop}

/-- A count would be told from none. -/
theorem renumbers_countUp (id id' : Nat) :
    Renumbers P cached known Eq (countUp id) (countUp id') := by
  refine ⟨keeps_countUp id, fun s s' _ hcalm => ?_⟩
  have hcount := hcalm.counts id
  rw [Session.countOf_countUp, if_pos rfl] at hcount
  exact absurd hcount (Nat.not_succ_le_self _)

/-- **To end alike but for numbers is a relation that calls respect.** -/
theorem Renumbers.congruence :
    Congruence Fault.ExpectedAlike Value.Renumbered fun R => Renumbers P cached known R where
  toOperable := Value.operable_renumbered
  pure _ _ _ hab := .pure hab
  throw := .throw
  bind hR _ _ _ _ h hnext := h.bind (hR.refl .refl) hnext
  freshId := .modifyGet keeps_freshId fun _ _ hs =>
    ⟨Value.numbersAlike_renumbered _ _, hs.frames, hs.store, hs.store'⟩
  countUp _ := renumbers_countUp _ _
  trace _ := ⟨.modify fun _ => ⟨rfl, rfl, List.Subset.refl _, fun _ => Nat.le_refl _⟩,
    fun _ _ hs _ => .ok rfl ⟨hs.frames, hs.store, hs.store'⟩⟩

/-- It also bears expected faults. -/
theorem Renumbers.tolerance :
    Tolerance Fault.ExpectedAlike Value.Renumbered fun R => Renumbers P cached known R where
  toCongruence := Renumbers.congruence
  attempt _ x _ _ h := h.attempt x

/-- Two lists of values that differ in numbers only. -/
abbrev AreRenumbered (vs ws : List Value) : Prop := List.Forall₂ Value.Renumbered vs ws

/-- **Whatever is asked of the next level ends alike**: calls of one and the same callable, but for
its number, and the rendering of templates of one source. -/
structure Below.Renumbers (P : Store → Prop) (cached : Prop) (known : String → Prop)
    (below : Below) : Prop where
  render : ∀ {t t'}, t.Twin t' →
    Mustache.Renumbers P cached known Eq (below.render t) (below.render t')
  call : ∀ f id self {args args'}, AreRenumbered args args' →
    Mustache.Renumbers P cached known Value.Renumbered (below.call f self args)
      (below.call { f with id } self args')

/-- A call of one and the same callable. -/
theorem Below.Renumbers.callSame {below : Below} (h : below.Renumbers P cached known) (f : Callable)
    (self : Option Object) {args args' : List Value} (hargs : AreRenumbered args args') :
    Mustache.Renumbers P cached known Value.Renumbered (below.call f self args)
      (below.call f self args') := by
  cases f
  exact h.call _ _ self hargs

theorem Below.Renumbers.keeps {below : Below} (h : below.Renumbers P cached known) : below.Keeps :=
  ⟨fun t => (h.render (.refl t)).keeps,
    fun f self args => (h.callSame f self (Value.operable_renumbered.reflList args)).keeps⟩

/-- The text of a lambda is loaded alike in sessions with such stores. -/
def RenumbersTexts (P : Store → Prop) (cached : Prop) (known : String → Prop) : Prop :=
  ∀ text delims, Renumbers P cached known Template.Twin (loadText text delims)
    (loadText text delims)

variable {below : Below} (h : below.Renumbers P cached known)
  (htexts : RenumbersTexts P cached known) {v w : Value}

include h htexts

/-- A text is loaded, and what is loaded is rendered. -/
theorem renumbers_load_render (text : String) (delims : Option String) :
    Renumbers P cached known Eq (loadText text delims >>= below.render)
      (loadText text delims >>= below.render) :=
  (htexts text delims).bind .refl fun _ _ => h.render

theorem renumbers_renderText (hv : v.Renumbered w) (delims : Option String) :
    Renumbers P cached known Eq (renderText below v delims) (renderText below w delims) :=
  Renumbers.congruence.bindSame (Renumbers.congruence.liftFault .same (hv.write {})) fun _ =>
    renumbers_load_render h htexts _ _

theorem renumbers_renderThrough (hv : v.Renumbered w) {text text' : Action Value}
    (htext : Renumbers P cached known Value.Renumbered text text') :
    Renumbers P cached known Value.Renumbered (renderThrough below v text)
      (renderThrough below w text') := by
  refine Renumbers.congruence.renderThroughOf _ _ (fun ho => ?_) (fun hf hv => ?_)
    (fun hm hv => ?_) (renumbers_renderText h htexts) hv htext
  · cases ho with
    | refl => exact Renumbers.congruence.objectMember (fun f self => h.callSame f self .nil) _ _
    | plain => exact .fault _
  · cases hf with
    | refl => exact h.callSame _ none (.cons hv .nil)
    | function _ id => exact h.call _ id none (.cons hv .nil)
  · cases hm with
    | refl => exact h.callSame _ _ (.cons hv .nil)

/-- The level and itself are related as far as calls can tell. -/
theorem Below.Renumbers.congruent :
    below.Congruent Value.Renumbered (fun R => Mustache.Renumbers P cached known R) AreRenumbered
      below :=
  Value.operable_renumbered.congruent (fun f self _ _ hargs => h.callSame f self hargs)
    (renumbers_renderThrough h htexts)

/-! ### Values -/

namespace Value.Renumbered

variable {args args' : List Value}

/-- **A call of a value.** -/
theorem call (hv : v.Renumbered w) (hargs : AreRenumbered args args') :
    Renumbers P cached known Renumbered (v.call below args) (w.call below args') := by
  cases hv with
  | refl => exact Renumbers.congruence.call (h.congruent htexts) hargs v
  | function f id =>
    exact Renumbers.congruence.invokeAs (h.congruent htexts) hargs f
      (numbersAlike_renumbered _ _) none
  | _ => cases hargs <;> exact .fault _

theorem member (hv : v.Renumbered w) (name : String) :
    Renumbers P cached known Renumbered (v.member below name) (w.member below name) := by
  cases hv with
  | refl => exact Renumbers.congruence.member (h.congruent htexts) v name
  | _ => exact .fault _

theorem callLambda (hv : v.Renumbered w) (hargs : AreRenumbered args args') :
    Renumbers P cached known Renumbered (v.callLambda below args) (w.callLambda below args') :=
  Renumbers.congruence.callLambdaOf hargs.length_eq.symm
    (Renumbers.tolerance.inspectOf (fun hv => hv.member h htexts) hv)
    fun n => hv.call h htexts (List.forall₂_take n hargs)

/-- **What a name stands for in a value.** -/
theorem memberNamed (hv : v.Renumbered w) (name : String) :
    Renumbers P cached known Renumbered (v.memberNamed below name) (w.memberNamed below name) := by
  have hmethod {o o' : Object} {f g : Callable} (hm : (method o f).Renumbered (method o' g)) :
      Renumbers P cached known Renumbered (f.invoke below (some o) [])
        (g.invoke below (some o') []) := by
    cases hm with
    | refl => exact Renumbers.congruence.invoke (h.congruent htexts) .nil f (some o)
  exact Renumbers.congruence.memberNamedOf hv hmethod name fun _ =>
    (hv.member h htexts name).attempt .noAttribute

end Value.Renumbered

/-! ### Names -/

/-- **A name is looked up**, or a path is followed. -/
theorem renumbers_findName (name : String) :
    Renumbers P cached known Value.Renumbered (findName below name) (findName below name) := by
  have hmember {v w : Value} (hv : v.Renumbered w) := hv.memberNamed h htexts
  refine Renumbers.congruence.findName _ _ hmember ?_ (fun name => ?_) name
  · let first (frames : List Value) : Action Value := pure (frames.headD .missing)
    refine Renumbers.getFrames first first fun frames frames' hframes => ?_
    cases hframes with
    | nil => exact .pure (.refl _)
    | cons hv _ => exact .pure hv
  · exact .getFrames (findIn below name) _ fun _ _ hframes =>
      Renumbers.congruence.findIn _ _ hmember name hframes

/-- **The value of a tag** differs in numbers only. -/
theorem renumbers_findFiltered {t t' : Template} (ht : t.Twin t') (name : String)
    (filters : List String) (place : Place) :
    Renumbers P cached known Value.Renumbered
      (findFiltered below ⟨name, filters, place, t.name, t.source⟩)
      (findFiltered below ⟨name, filters, place, t'.name, t'.source⟩) := by
  rw [ht.source]
  exact Renumbers.congruence.findFiltered _ _ (renumbers_findName h htexts)
    (fun hfg hv => hfg.call h htexts (.cons hv .nil))
    (fun filter => (Fault.sameSort_unrenderable ht.name).expectedAlike) rfl rfl

/-! ### Loaders -/

/-- **What a loader finds** differs in numbers only, if its file searches find the same. -/
theorem Loader.renumbers_find (name : String) (l : Loader)
    (hfiles : ∀ a b, P a → P b → ∀ search ∈ l.searches,
      search.find b.files name = search.find a.files name) :
    Renumbers P cached known (FoundRel Value.Renumbered) (l.find below name)
      (l.find below name) := by
  have hrefl (found : Found) : FoundRel Value.Renumbered found found := ⟨.refl _, .refl _⟩
  refine Renumbers.tolerance.findOf (fun hv => hv.member h htexts)
    (fun hf hv => hf.call h htexts (.cons hv .nil)) name l fun search hsearch =>
    ⟨.bind .get fun _ => .liftFault _, fun s s' hs _ => ?_⟩
  show RenumberedEnd P cached _ (liftFault (search.find s.files name) s)
    (liftFault (search.find s'.files name) s')
  have hsame : search.find s'.files name = search.find s.files name :=
    hfiles s.store s'.store hs.store hs.store' search hsearch
  rw [hsame]
  cases search.find s.files name with
  | ok found => exact .ok (hrefl found) hs
  | error e => exact .error (.refl e) hs

end

end Mustache
