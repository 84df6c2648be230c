import Mathlib.Tactic.Common
import Mustache.Proofs.Session.Events
import Mustache.Proofs.Session.Kept

/-!
# Actions that are oblivious of a difference

Two sessions may differ in something that an action never looks at. The action then ends alike in
both: with the same answer or in the same fault, and the sessions that it leaves behind differ in
the same way again. With a session in the place of both this says what the action leaves as it is.
Which difference is meant is a parameter here. Calls, counts, records and files are the
background of every action; a difference that does not touch them is hidden from every call that has
no means to render text.

## Main definitions

* `Mustache.SameEnd` — ends that are alike.
* `Mustache.Oblivious` — actions that end alike in sessions with a certain difference.
* `Mustache.Surroundings` — what all actions share.
* `Mustache.IsHidden` — differences that do not touch it.
* `Mustache.AreIdle`, `Mustache.AreOffered` — arguments with nothing to render with.
* `Mustache.Below.Oblivious` — what can be asked of the next level is oblivious of a difference.

## Main results

* `Mustache.Oblivious.bind` — sequencing.
* `Mustache.IsHidden.tolerance` — a relation that calls respect.
* `Mustache.Callable.oblivious_invoke`, `Mustache.Value.oblivious_call` — calls.
* `Mustache.Value.oblivious_memberNamed` — members of values.
-/

namespace Mustache

/-! ## Ends that are alike -/

section

variable {α β : Type}

/-- **Ends that are alike**: the same answer or the same fault, in sessions with the difference. -/
inductive SameEnd (R : Session → Session → Prop) :
    EStateM.Result Fault Session α → EStateM.Result Fault Session α → Prop
  | ok {a : α} {s s' : Session} (sessions : R s s') : SameEnd R (.ok a s) (.ok a s')
  | error {e : Fault} {s s' : Session} (sessions : R s s') : SameEnd R (.error e s) (.error e s')

/-- What follows ends alike if it does so after every answer that there can be. -/
theorem SameEnd.bindOf {R : Session → Session → Prop} {act act' : Action α}
    {next next' : α → Action β} {s s' : Session} (h : SameEnd R (act s) (act' s'))
    (hnext : ∀ a s₁ s₁', act s = .ok a s₁ → R s₁ s₁' → SameEnd R (next a s₁) (next' a s₁')) :
    SameEnd R ((act >>= next) s) ((act' >>= next') s') := by
  generalize hrun : act s = r at h hnext
  generalize hrun' : act' s' = r' at h
  cases h with
  | ok sessions =>
    rw [bind_of_ok hrun, bind_of_ok hrun']
    exact hnext _ _ _ rfl sessions
  | error sessions =>
    rw [bind_of_error hrun, bind_of_error hrun']
    exact .error sessions

/-- **An action that is oblivious of a difference** between sessions. -/
def Oblivious (R : Session → Session → Prop) (act : Action α) : Prop :=
  ∀ s s', R s s' → SameEnd R (act s) (act s')

namespace Oblivious

variable {R : Session → Session → Prop} {act : Action α}

theorem pure (a : α) : Oblivious R (Pure.pure a) := fun _ _ hs => .ok hs

theorem throw (e : Fault) : Oblivious R (MonadExcept.throw e : Action α) := fun _ _ hs => .error hs

theorem bind {next : α → Action β} (h : Oblivious R act) (hnext : ∀ a, Oblivious R (next a)) :
    Oblivious R (act >>= next) :=
  fun s s' hs => (h s s' hs).bindOf fun a s₁ s₁' _ => hnext a s₁ s₁'

/-- Sequencing, if something is known of the answers. -/
theorem bindOf {next : α → Action β} (Q : α → Prop) (h : Oblivious R act)
    (hQ : ∀ s a s', act s = .ok a s' → Q a) (hnext : ∀ a, Q a → Oblivious R (next a)) :
    Oblivious R (act >>= next) :=
  fun s s' hs => (h s s' hs).bindOf fun a s₁ s₁' hrun => hnext a (hQ s a s₁ hrun) s₁ s₁'

/-- An action that depends on what the difference does not touch. -/
theorem get {next : Session → Action β} (hsame : ∀ s s', R s s' → next s' = next s)
    (h : ∀ s, Oblivious R (next s)) : Oblivious R (MonadState.get >>= next) := by
  intro s s' hR
  show SameEnd R (next s s) (next s' s')
  rw [hsame s s' hR]
  exact h s s s' hR

theorem liftFault (x : Except Fault α) : Oblivious R (liftFault x) := by
  cases x with
  | ok a => exact pure a
  | error e => exact throw e

theorem ite {c : Prop} [Decidable c] {act' : Action α} (h : Oblivious R act)
    (h' : Oblivious R act') : Oblivious R (if c then act else act') := by
  split
  · exact h
  · exact h'

/-- A guard in front of an action. -/
theorem guard {c : Prop} [Decidable c] {e : Fault} {rest : PUnit → Action α}
    (h : Oblivious R (rest ⟨⟩)) :
    Oblivious R (if c then MonadExcept.throw e >>= rest else rest ⟨⟩) :=
  .ite (.bind (.throw e) fun _ => h) h

theorem attempt (x : Expected) (h : Oblivious R act) : Oblivious R (attempt x act) := by
  intro s s' hR
  have hact := h s s' hR
  unfold Mustache.attempt
  generalize act s = r at hact ⊢
  generalize act s' = r' at hact ⊢
  cases hact with
  | ok sessions => exact .ok sessions
  | error sessions =>
    dsimp only
    split
    · exact .ok sessions
    · exact .error sessions

end Oblivious

/-- An action that is oblivious of the difference between a session and itself, as long as a
condition holds, keeps the condition. -/
theorem Oblivious.keeps {act : Action α} {P : Session → Prop}
    (h : Oblivious (fun s s' => s' = s ∧ P s) act) {s : Session} (hs : P s) :
    P (sessionOf (act s)) := by
  have hact := h s s ⟨rfl, hs⟩
  generalize act s = r at hact ⊢
  cases hact with
  | ok sessions => exact sessions.2
  | error sessions => exact sessions.2

end

/-! ## Events and files -/

section

variable {R : Session → Session → Prop}

/-- **A difference that stays when events are reported**: the loggers have the same levels, and the
difference is not one of records. -/
structure IsLoggable (R : Session → Session → Prop) : Prop where
  levels : ∀ {s s'}, R s s' → s'.levels = s.levels
  record : ∀ {s s'}, R s s' → ∀ record,
    R { s with records := record :: s.records } { s' with records := record :: s'.records }

/-- **A difference that stays when files are written**, and events reported: it is not one of
files. -/
structure IsStorable (R : Session → Session → Prop) : Prop extends IsLoggable R where
  files : ∀ {s s'}, R s s' → s'.files = s.files
  putFiles : ∀ {s s'}, R s s' → ∀ files, R { s with files } { s' with files }

theorem oblivious_logEvent (hR : IsLoggable R) (logger : Logger) (level : Level)
    (message : String) (fields : Fields) : Oblivious R (logEvent logger level message fields) := by
  refine .get (fun s s' h => by rw [hR.levels h]) fun s => ?_
  split
  · exact .throw _
  · exact .pure ()
  · next record _ => exact fun _ _ hs => .ok (hR.record hs record)

theorem oblivious_modifyFiles (hR : IsStorable R) (f : FileTree → FileTree) :
    Oblivious R (modify fun s : Session => { s with files := f s.files }) := by
  intro s s' hs
  show SameEnd R (.ok _ { s with files := f s.files }) (.ok _ { s' with files := f s'.files })
  rw [hR.files hs]
  exact .ok (hR.putFiles hs _)

end

/-! ## The surroundings of actions -/

/-- What all actions share: the counts, the loggers, the records and the files. -/
structure Surroundings where
  tallies : List (Nat × Nat)
  nextId : Nat
  levels : Levels
  records : List Record
  files : FileTree

namespace Session

/-- What all actions share. -/
def surroundings (s : Session) : Surroundings :=
  ⟨s.tallies, s.nextId, s.levels, s.records, s.files⟩

/-- The session in other surroundings. -/
def within (s : Session) (x : Surroundings) : Session :=
  { s with
    tallies := x.tallies, nextId := x.nextId, levels := x.levels, records := x.records
    files := x.files }

/-- The session with its engine changed. -/
def mapEngine (s : Session) (f : Engine → Engine) : Session := { s with engine := s.engine.map f }

end Session

/-- **A difference in the background of which nothing happens**: the surroundings are the same, and
whatever becomes of them, of the traces of calls and of the persistent cache, the difference
stays. -/
structure IsHidden (R : Session → Session → Prop) : Prop where
  surroundings : ∀ {s s'}, R s s' → s'.surroundings = s.surroundings
  within : ∀ {s s'}, R s s' → ∀ x, R (s.within x) (s'.within x)
  trace : ∀ {s s'}, R s s' → ∀ args,
    R { s with calls := args :: s.calls } { s' with calls := args :: s'.calls }
  cache : ∀ {s s'}, R s s' → ∀ cache,
    R (s.mapEngine fun e => { e with cache }) (s'.mapEngine fun e => { e with cache })

/-- A condition on sessions that does not depend on the surroundings, the traces and the persistent
cache makes such a difference. -/
theorem isHidden_of_condition {P : Session → Prop} (within : ∀ {s}, P s → ∀ x, P (s.within x))
    (trace : ∀ {s}, P s → ∀ calls, P { s with calls })
    (cache : ∀ {s}, P s → ∀ cache, P (s.mapEngine fun e => { e with cache })) :
    IsHidden fun s s' => s' = s ∧ P s where
  surroundings h := by rw [h.1]
  within h x := ⟨by rw [h.1], within h.2 x⟩
  trace h _ := ⟨by rw [h.1], trace h.2 _⟩
  cache h c := ⟨by rw [h.1], cache h.2 c⟩

section

variable {R : Session → Session → Prop} (hR : IsHidden R)

include hR

namespace IsHidden

/-- A change of the surroundings in the light of what they are. -/
theorem change {s s' : Session} (h : R s s') (g : Surroundings → Surroundings) :
    R (s.within (g s.surroundings)) (s'.within (g s'.surroundings)) := by
  rw [hR.surroundings h]
  exact hR.within h _

theorem modifyGet {α : Type} {f : Session → α × Session} (g : Surroundings → α × Surroundings)
    (hf : ∀ s, f s = ((g s.surroundings).1, s.within (g s.surroundings).2)) :
    Oblivious R (modifyGet f : Action α) := by
  intro s s' h
  show SameEnd R (.ok (f s).1 (f s).2) (.ok (f s').1 (f s').2)
  rw [hf, hf, hR.surroundings h]
  exact .ok (hR.within h _)

theorem storable : IsStorable R where
  levels h := congrArg Surroundings.levels (hR.surroundings h)
  files h := congrArg Surroundings.files (hR.surroundings h)
  record h record := hR.change h fun x => { x with records := record :: x.records }
  putFiles h files := hR.change h fun x => { x with files }

theorem loggable : IsLoggable R := hR.storable.toIsLoggable

end IsHidden

theorem oblivious_freshId : Oblivious R freshId :=
  hR.modifyGet (fun x => (x.nextId, { x with nextId := x.nextId + 1 })) fun _ => rfl

theorem oblivious_countUp (id : Nat) : Oblivious R (countUp id) :=
  hR.modifyGet (fun x =>
    let n := (x.tallies.lookup id).getD 0 + 1
    (n, { x with tallies := (id, n) :: x.tallies.filter fun t => t.1 != id })) fun _ => rfl

theorem oblivious_trace (args : List Value) :
    Oblivious R (modify fun s : Session => { s with calls := args :: s.calls }) :=
  fun _ _ hs => .ok (hR.trace hs args)

end

/-! ## Arguments to render with -/

/-- A value that text can be rendered with. -/
def Value.CanRender : Value → Prop
  | .helper _ _ _ | .object _ => True
  | _ => False

/-- **Arguments with nothing to render with**: the second one, which a body has text rendered by,
is of no use for it. -/
def AreIdle (args : List Value) : Prop := ∀ v, args[1]? = some v → ¬ v.CanRender

theorem areIdle_nil : AreIdle [] := by simp [AreIdle]

theorem areIdle_singleton (v : Value) : AreIdle [v] := by simp [AreIdle]

theorem areIdle_tree (v : Value) (tree : Tree) : AreIdle [v, .tree tree] := by
  simp [AreIdle, Value.CanRender]

/-- Positions that are left out hold null. -/
theorem AreIdle.bind {args : List Value} (h : AreIdle args) (signature : Signature) :
    AreIdle (signature.bind args) := by
  cases signature with
  | hidden => exact h
  | parameters ps =>
    intro v hv
    rw [Signature.bind, List.getElem?_append] at hv
    split at hv
    · exact h v hv
    · rw [List.getElem?_replicate] at hv
      split at hv
      · rw [← Option.some.inj hv]
        exact id
      · simp at hv

theorem getElem?_of_atIndex_one {args : List Value} {v : Value}
    (h : Value.atIndex args 1 = .ok v) : args[1]? = some v := by
  unfold Value.atIndex at h
  simp only [Int.reduceLT, if_false, Int.toNat_one] at h
  split at h
  · next hv => rw [hv, Except.ok.inj h]
  · simp at h

/-- With such arguments no text is rendered. -/
theorem AreIdle.renderThrough_eq {args : List Value} (h : AreIdle args) {renderer : Value}
    (hrenderer : Value.atIndex args 1 = .ok renderer) (below : Below) (text : Action Value) :
    renderThrough below renderer text = throw .noAttribute := by
  have hnot := h renderer (getElem?_of_atIndex_one hrenderer)
  unfold renderThrough
  split
  · exact absurd trivial hnot
  · exact absurd trivial hnot
  · rfl

/-! ## Calls -/

/-- **What can be asked of the next level is oblivious of a difference**: calls with nothing to
render with, and, if `renders` holds, all calls and the rendering of templates and of texts. -/
structure Below.Oblivious (R : Session → Session → Prop) (renders : Prop) (below : Below) :
    Prop where
  call : ∀ f self args, renders ∨ AreIdle args → Mustache.Oblivious R (below.call f self args)
  render : renders → ∀ t, Mustache.Oblivious R (below.render t)
  loadText : renders → ∀ text delims, Mustache.Oblivious R (loadText text delims)

section

variable {R : Session → Session → Prop} (hR : IsHidden R) {renders : Prop} {below : Below}
  (h : below.Oblivious R renders)

include hR in
/-- **To be oblivious of a hidden difference is a relation that calls respect.** -/
theorem IsHidden.tolerance : Tolerance Eq Eq fun _ act _ => Oblivious R act where
  toCongruence := .of_same .pure .throw .bind (oblivious_freshId hR) (oblivious_countUp hR)
    (oblivious_trace hR)
  attempt _ x _ _ h := .attempt x h

/-- The same arguments on both sides, with nothing to render with unless rendering is oblivious
too. -/
def AreOffered (renders : Prop) (args args' : List Value) : Prop :=
  args' = args ∧ (renders ∨ AreIdle args)

include h in
theorem oblivious_renderText (hrenders : renders) (text : Value) (delims : Option String) :
    Oblivious R (renderText below text delims) :=
  .bind (.liftFault _) fun _ => .bind (h.loadText hrenders _ _) fun t => h.render hrenders t

include hR h

theorem Below.Oblivious.congruent :
    below.Congruent Eq (fun _ act _ => Mustache.Oblivious R act) (AreOffered renders) below where
  arguments :=
    { values := fun hargs => hargs.1 ▸ List.forall₂_same.2 fun _ _ => rfl
      nil := ⟨rfl, .inr areIdle_nil⟩
      one := fun hv => hv ▸ ⟨rfl, .inr (areIdle_singleton _)⟩
      bind := fun hargs signature =>
        ⟨hargs.1 ▸ rfl, hargs.2.imp_right fun hidle => hidle.bind signature⟩ }
  call f self _ _ hargs := h.call f self _ hargs.2
  through {_ _} hargs {renderer _} hrenderer _ {text text'} htext := by
    rcases hargs.2 with hrenders | hidle
    · exact hR.tolerance.renderThrough below below (fun f self args _ =>
        h.call f self args (.inl hrenders)) (oblivious_renderText h hrenders) renderer text text' htext
    · show Mustache.Oblivious R (renderThrough below renderer text)
      rw [hidle.renderThrough_eq hrenderer]
      exact .throw _

section

variable {args : List Value} (hargs : renders ∨ AreIdle args)

include hargs

/-- **A call**, if its arguments are nothing to render with or rendering is oblivious too. -/
theorem Callable.oblivious_invoke (f : Callable) (self : Option Object) :
    Oblivious R (f.invoke below self args) :=
  hR.tolerance.invoke (h.congruent hR) ⟨rfl, hargs⟩ f self

theorem Value.oblivious_call (v : Value) : Oblivious R (v.call below args) :=
  hR.tolerance.call (h.congruent hR) ⟨rfl, hargs⟩ v

theorem Value.oblivious_callMember (v : Value) (name : String) :
    Oblivious R (v.callMember below name args) :=
  hR.tolerance.callMember (h.congruent hR) ⟨rfl, hargs⟩ v name

end

namespace Value

theorem oblivious_member (v : Value) (name : String) : Oblivious R (v.member below name) :=
  hR.tolerance.member (h.congruent hR) v name

theorem oblivious_member? (v : Value) (name : String) : Oblivious R (v.member? below name) :=
  hR.tolerance.member? (h.congruent hR) v name

theorem oblivious_memberNamed (v : Value) (name : String) :
    Oblivious R (v.memberNamed below name) :=
  hR.tolerance.memberNamed (h.congruent hR) v name

theorem oblivious_callLambda (hrenders : renders) (v : Value) (args : List Value) :
    Oblivious R (v.callLambda below args) :=
  hR.tolerance.callLambda (h.congruent hR) (fun _ => ⟨rfl, .inl hrenders⟩) v

end Value

end

/-- **Calls with nothing to render with are oblivious of every hidden difference**, at every
level. -/
theorem oblivious_level_of_isHidden {R : Session → Session → Prop} (hR : IsHidden R) (depth : Nat) :
    (level depth).Oblivious R False := by
  induction depth with
  | zero => exact ⟨fun _ _ _ _ => .throw _, False.elim, False.elim⟩
  | succ depth ih =>
    exact ⟨fun f self _ hargs => Callable.oblivious_invoke hR ih hargs f self, False.elim,
      False.elim⟩

end Mustache
