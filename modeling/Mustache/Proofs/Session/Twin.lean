import Mustache.Proofs.Session.Load
import Mustache.Proofs.Session.Texts

/-!
# Actions that agree

Two sessions may differ in what their engines keep and in what lies in their files, and yet nothing
of this may show. Such sessions are called twins here, and two actions agree if in twin
sessions they end alike: well, with related answers, or in faults of one sort, and in twin sessions
again. This module has what holds of any relation of stores; which stores make twins is up to the
modules that use it.

## Main definitions

* `Mustache.Fault.SameSort` — faults that differ in the name that they mention at most.
* `Mustache.Store`, `Mustache.Session.Twin` — sessions that differ in related stores.
* `Mustache.SameOutcome` — ends that are alike.
* `Mustache.Agrees` — actions that end alike in twin sessions.
* `Mustache.Template.Twin` — templates of the same source.

## Main results

* `Mustache.Agrees.bind`, `Mustache.Agrees.bindOn` — sequencing.
* `Mustache.Agrees.withFrame`, `Mustache.Agrees.attempt` — frames and expected faults.

## Implementation notes

Keys of templates may collide, so that nothing can be said if all sources are taken into account.
Actions are compared as long as they ask for known sources only. As the history of a session
grows, the last session tells whether they did.
-/

namespace Mustache

/-! ## Faults -/

/-- **Faults of one sort**: they differ in the name of the template that they mention at most. -/
inductive Fault.SameSort : Fault → Fault → Prop
  | refl (e : Fault) : SameSort e e
  | unrenderable (e : Unrenderable) (name : Value) :
    SameSort (.template (.unrenderable e))
      (.template (.unrenderable { e with templateName := name }))
  | engineGone (name name' : Value) : SameSort (.engineGone name) (.engineGone name')

namespace Fault

theorem SameSort.covers {e e' : Fault} (h : e.SameSort e') (x : Expected) :
    x.covers e' = x.covers e := by
  cases h <;> cases x <;> rfl

/-- Nobody expects a cache that cannot be written. -/
theorem IsUnwritten.covers {e : Fault} (h : e.IsUnwritten) (x : Expected) : x.covers e = false := by
  unfold IsUnwritten at h
  split at h
  · cases x <;> rfl
  · exact h.elim

end Fault

/-! ## Twins -/

/-- What a session holds apart from the frames and the counts. -/
structure Store where
  engine : Option Engine
  files : FileTree
  levels : Levels

/-- What the session holds apart from the frames and the counts. -/
def Session.store (s : Session) : Store := ⟨s.engine, s.files, s.levels⟩

/-- **Sessions that differ in related stores only**, but for the traces of calls, the records, the
numbers of templates and the history. -/
structure Session.Twin (H : Store → Store → Prop) (s s' : Session) : Prop where
  frames : s'.frames = s.frames
  tallies : s'.tallies = s.tallies
  nextId : s'.nextId = s.nextId
  store : H s.store s'.store

/-- Templates of the same source, made by the same engine. They may go by different names, if these
can be put into words. -/
structure Template.Twin (t t' : Template) : Prop where
  engine : t'.engine = t.engine
  source : t'.source = t.source
  tree : t'.tree = t.tree
  escaping : t'.escaping = t.escaping
  name : t'.name = t.name ∨ t.name.IsName ∧ t'.name.IsName

theorem Template.Twin.refl (t : Template) : t.Twin t := ⟨rfl, rfl, rfl, rfl, .inl rfl⟩

/-- Templates that an engine makes of the same source are twins. -/
theorem Template.IsOf.twin {t t' : Template} {e e' : Engine} {source : String}
    (h : t.IsOf e source) (h' : t'.IsOf e' source) (hid : e'.id = e.id)
    (hescaping : e'.escaping = e.escaping) : t.Twin t' where
  engine := by rw [h.engine, h'.engine, hid]
  source := by rw [h.source, h'.source]
  tree := Except.ok.inj (h'.tree.symm.trans h.tree)
  escaping := by rw [h.escaping, h'.escaping, hescaping]
  name := .inr ⟨h.name, h'.name⟩

section

variable {α β : Type}

/-- **Ends that are alike**: both well, with related answers, or both in faults of one sort, and in
twin sessions. If the first run has been cut short because a cache could not be written, nothing is
said of the second. -/
inductive SameOutcome (H : Store → Store → Prop) (Q : α → α → Prop) :
    EStateM.Result Fault Session α → EStateM.Result Fault Session α → Prop
  | ok {a a' : α} {s s' : Session} (answers : Q a a') (sessions : s.Twin H s') :
    SameOutcome H Q (.ok a s) (.ok a' s')
  | error {e e' : Fault} {s s' : Session} (faults : e.SameSort e') (sessions : s.Twin H s') :
    SameOutcome H Q (.error e s) (.error e' s')
  | unwritten {e : Fault} {s : Session} {r : EStateM.Result Fault Session α}
    (unwritten : e.IsUnwritten) : SameOutcome H Q (.error e s) r

/-- The stores and the answers may be related in a weaker way. -/
theorem SameOutcome.mono {H H' : Store → Store → Prop} {Q Q' : α → α → Prop}
    {r r' : EStateM.Result Fault Session α} (h : SameOutcome H Q r r')
    (hH : ∀ a b, H a b → H' a b) (hQ : ∀ a a', Q a a' → Q' a a') : SameOutcome H' Q' r r' := by
  have htwin {s s' : Session} (h : s.Twin H s') : s.Twin H' s' :=
    ⟨h.frames, h.tallies, h.nextId, hH _ _ h.store⟩
  cases h with
  | ok answers sessions => exact .ok (hQ _ _ answers) (htwin sessions)
  | error faults sessions => exact .error faults (htwin sessions)
  | unwritten unwritten => exact .unwritten unwritten

/-- **Actions that end alike in twin sessions**, as long as the first one asks for known sources
only. -/
structure Agrees (H : Store → Store → Prop) (known : String → Prop) (Q : α → α → Prop)
    (act act' : Action α) : Prop where
  keeps : Keeps act
  outcome : ∀ s s', s.Twin H s' → (∀ x ∈ (sessionOf (act s)).asked, known x) →
    SameOutcome H Q (act s) (act' s')

namespace Agrees

variable {H : Store → Store → Prop} {known : String → Prop} {P : β → β → Prop} {Q : α → α → Prop}
  {act act' : Action α}

theorem pure {a a' : α} (h : Q a a') : Agrees H known Q (Pure.pure a) (Pure.pure a') :=
  ⟨.pure a, fun _ _ htwin _ => .ok h htwin⟩

theorem throw {e e' : Fault} (h : e.SameSort e') :
    Agrees H known Q (MonadExcept.throw e) (MonadExcept.throw e') :=
  ⟨.throw e, fun _ _ htwin _ => .error h htwin⟩

/-- The same fault on both sides. -/
theorem fault (e : Fault) : Agrees H known Q (MonadExcept.throw e) (MonadExcept.throw e) :=
  throw (.refl e)

/-- **Actions in sequence**, for answers that are related. -/
theorem bindOn {next next' : α → Action β} (h : Agrees H known Q act act')
    (hkeeps : ∀ a, Keeps (next a))
    (hnext : ∀ a a', Q a a' → Agrees H known P (next a) (next' a')) :
    Agrees H known P (act >>= next) (act' >>= next') := by
  refine ⟨.bind h.keeps hkeeps, fun s s' htwin hasked => ?_⟩
  cases hact : act s with
  | ok a s₁ =>
    rw [bind_of_ok hact] at hasked ⊢
    have hfirst := h.outcome s s' htwin <| by
      rw [hact]
      exact fun x hx => hasked x ((hkeeps a s₁).asked hx)
    rw [hact] at hfirst
    generalize hact' : act' s' = r at hfirst
    cases hfirst with
    | ok answers sessions =>
      rw [bind_of_ok hact']
      exact (hnext _ _ answers).outcome _ _ sessions hasked
  | error e s₁ =>
    rw [bind_of_error hact] at hasked ⊢
    have hfirst := h.outcome s s' htwin (by rw [hact]; exact hasked)
    rw [hact] at hfirst
    generalize hact' : act' s' = r at hfirst
    cases hfirst with
    | error faults sessions =>
      rw [bind_of_error hact']
      exact .error faults sessions
    | unwritten unwritten => exact .unwritten unwritten

/-- The answers may be related in a weaker way. -/
theorem mono {R : α → α → Prop} (h : Agrees H known Q act act') (hR : ∀ a a', Q a a' → R a a') :
    Agrees H known R act act' :=
  ⟨h.keeps, fun s s' htwin hasked => (h.outcome s s' htwin hasked).mono (fun _ _ hab => hab) hR⟩

/-- What holds of every answer of the first action holds of the answers that are related. -/
theorem answers {R : α → Prop} (h : Agrees H known Q act act')
    (hR : ∀ s a s', act s = .ok a s' → R a) :
    Agrees H known (fun a a' => Q a a' ∧ R a) act act' := by
  refine ⟨h.keeps, fun s s' htwin hasked => ?_⟩
  have hsame := h.outcome s s' htwin hasked
  generalize hact : act s = r at hsame
  generalize act' s' = r' at hsame
  cases hsame with
  | ok answers sessions => exact .ok ⟨answers, hR _ _ _ hact⟩ sessions
  | error faults sessions => exact .error faults sessions
  | unwritten unwritten => exact .unwritten unwritten

/-- Actions in sequence, for answers that are the same. -/
theorem bind {next next' : α → Action β} (h : Agrees H known Eq act act')
    (hnext : ∀ a, Agrees H known P (next a) (next' a)) :
    Agrees H known P (act >>= next) (act' >>= next') :=
  h.bindOn (fun a => (hnext a).keeps) fun a _ hsame => hsame ▸ hnext a

/-- Twins have the same frames. -/
theorem getFrames (next next' : List Value → Action α)
    (h : ∀ frames, Agrees H known Q (next frames) (next' frames)) :
    Agrees H known Q (MonadState.get >>= fun s : Session => next s.frames)
      (MonadState.get >>= fun s : Session => next' s.frames) := by
  refine ⟨.bind .get fun s => (h _).keeps, fun s s' htwin hasked => ?_⟩
  show SameOutcome H Q (next s.frames s) (next' s'.frames s')
  rw [htwin.frames]
  exact (h s.frames).outcome s s' htwin hasked

theorem liftFault (x : Except Fault α) : Agrees H known Eq (liftFault x) (liftFault x) := by
  cases x with
  | ok a => exact pure rfl
  | error e => exact fault e

/-- A change of the session that is the same for twins. -/
theorem modifyGet {f : Session → α × Session} (hkeeps : ∀ s : Session, s.Kept (f s).2)
    (h : ∀ s s' : Session, s.Twin H s' → (f s).1 = (f s').1 ∧ (f s).2.Twin H (f s').2) :
    Agrees H known Eq (MonadState.modifyGet f : Action α) (MonadState.modifyGet f) :=
  ⟨.modifyGet hkeeps, fun s s' htwin _ => .ok (h s s' htwin).1 (h s s' htwin).2⟩

theorem ite {c : Prop} [Decidable c] {act₁ act₂ act₁' act₂' : Action α}
    (h₁ : Agrees H known Q act₁ act₁') (h₂ : Agrees H known Q act₂ act₂') :
    Agrees H known Q (if c then act₁ else act₂) (if c then act₁' else act₂') := by
  split
  · exact h₁
  · exact h₂

/-- A guard in front of an action. -/
theorem guard {c : Prop} [Decidable c] {e e' : Fault} (hfault : e.SameSort e')
    {rest rest' : PUnit → Action α} (h : Agrees H known Q (rest ⟨⟩) (rest' ⟨⟩)) :
    Agrees H known Q (if c then MonadExcept.throw e >>= rest else rest ⟨⟩)
      (if c then MonadExcept.throw e' >>= rest' else rest' ⟨⟩) := by
  split
  · exact throw hfault
  · exact h

/-- A frame is pushed and taken off again. -/
theorem withFrame (h : Agrees H known Q act act') (frame : Value) :
    Agrees H known Q (withFrame frame act) (withFrame frame act') := by
  refine ⟨h.keeps.withFrame frame, fun s s' htwin hasked => ?_⟩
  have hpushed : Session.Twin H { s with frames := frame :: s.frames }
      { s' with frames := frame :: s'.frames } :=
    ⟨congrArg (frame :: ·) htwin.frames, htwin.tallies, htwin.nextId, htwin.store⟩
  have hinner := h.outcome _ _ hpushed
  unfold Mustache.withFrame at hasked ⊢
  generalize act { s with frames := frame :: s.frames } = r at hinner hasked ⊢
  generalize act' { s' with frames := frame :: s'.frames } = r' at hinner ⊢
  cases r with
  | ok a s₁ =>
    cases hinner hasked with
    | ok answers sessions =>
      exact .ok answers
        ⟨congrArg List.tail sessions.frames, sessions.tallies, sessions.nextId, sessions.store⟩
  | error e s₁ =>
    cases hinner hasked with
    | error faults sessions =>
      exact .error faults
        ⟨congrArg List.tail sessions.frames, sessions.tallies, sessions.nextId, sessions.store⟩
    | unwritten unwritten => exact .unwritten unwritten

/-- A fault that is expected on one side is expected on the other. -/
theorem attempt (x : Expected) (h : Agrees H known Eq act act') :
    Agrees H known Eq (attempt x act) (attempt x act') := by
  refine ⟨h.keeps.attempt x, fun s s' htwin hasked => ?_⟩
  have hinner := h.outcome s s' htwin
  unfold Mustache.attempt at hasked ⊢
  generalize act s = r at hinner hasked ⊢
  generalize act' s' = r' at hinner ⊢
  cases r with
  | ok a s₁ =>
    cases hinner hasked with
    | ok answers sessions => exact .ok (congrArg some answers) sessions
  | error e s₁ =>
    have hasked' : ∀ x ∈ s₁.asked, known x := by
      dsimp only at hasked
      split at hasked <;> exact hasked
    cases hinner hasked' with
    | error faults sessions =>
      dsimp only
      rw [faults.covers x]
      split
      · exact .ok rfl sessions
      · exact .error faults sessions
    | unwritten unwritten =>
      dsimp only
      rw [unwritten.covers x]
      exact .unwritten unwritten

end Agrees

/-- Events are reported alike if the loggers have the same levels. -/
theorem agrees_logEvent {H : Store → Store → Prop} {known : String → Prop}
    (hlevels : ∀ a b, H a b → b.levels = a.levels) (logger : Logger) (level : Level)
    (message : String) (fields : Fields) :
    Agrees H known Eq (logEvent logger level message fields)
      (logEvent logger level message fields) := by
  refine ⟨keeps_logEvent _ _ _ _, fun s s' htwin _ => ?_⟩
  have hsame : s'.levels = s.levels := hlevels _ _ htwin.store
  cases hrecord : logger.record? s.levels level message fields with
  | error e =>
    rw [logEvent_eq_of_error hrecord, logEvent_eq_of_error (hsame ▸ hrecord)]
    exact .error (.refl e) htwin
  | ok record =>
    rw [logEvent_eq_of_ok hrecord, logEvent_eq_of_ok (hsame ▸ hrecord)]
    exact .ok rfl ⟨htwin.frames, htwin.tallies, htwin.nextId, htwin.store⟩

end

end Mustache
