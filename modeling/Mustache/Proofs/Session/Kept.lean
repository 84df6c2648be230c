import Mustache.Proofs.Session.Traversal

/-!
# What actions keep

Looking names up, calling callables and loading templates count, log and fill caches, but leave
the frames and the configuration of the engine as they are, whether they end well or in a fault;
and the history of what has been asked for only grows, as do the counts of calls. This is a relation
of actions that calls and names respect; what lies a level deeper is assumed to do the same.

## Main definitions

* `Mustache.Engine.settings` — an engine without what it has compiled and stored.
* `Mustache.Session.countOf` — how often a callable has been called.
* `Mustache.Session.Kept` — a session and a later one with the same frames and configuration.
* `Mustache.Keeps` — actions that leave both as they are.
* `Mustache.Below.Keeps` — the same for what can be asked of the next level.

## Main results

* `Mustache.Keeps.bind`, `Mustache.Keeps.withFrame` — sequencing and frames.
* `Mustache.Keeps.tolerance` — a relation that calls respect, also where they bear faults.
* `Mustache.Value.keeps_call`, `Mustache.Value.keeps_callLambda` — calls.
* `Mustache.keeps_loadText` — texts of lambdas.
* `Mustache.keeps_findFiltered` — names.
-/

namespace Mustache

/-! ## Sessions with the same frames and configuration -/

/-- The engine without what it has compiled and stored. -/
def Engine.settings (e : Engine) : Engine :=
  { e with cache := .disabled, templates := [], lambdas := [] }

/-- How often a callable has been called, as far as calls are counted. -/
def Session.countOf (s : Session) (id : Nat) : Nat := (s.tallies.lookup id).getD 0

/-- The frames and the configuration of the engine are the same, nothing that has been asked for is
forgotten, and no count goes back. -/
structure Session.Kept (s s' : Session) : Prop where
  frames : s'.frames = s.frames
  engine : s'.engine.map Engine.settings = s.engine.map Engine.settings
  asked : s.asked ⊆ s'.asked
  counts : ∀ id, s.countOf id ≤ s'.countOf id

theorem Session.Kept.refl (s : Session) : s.Kept s :=
  ⟨rfl, rfl, List.Subset.refl _, fun _ => Nat.le_refl _⟩

theorem Session.Kept.trans {s s' s'' : Session} (h : s.Kept s') (h' : s'.Kept s'') : s.Kept s'' :=
  ⟨h'.frames.trans h.frames, h'.engine.trans h.engine,
    List.Subset.trans h.asked h'.asked, fun id => Nat.le_trans (h.counts id) (h'.counts id)⟩

/-- The session that an action leaves behind, whether it ends well or in a fault. -/
def sessionOf {α : Type} : EStateM.Result Fault Session α → Session
  | .ok _ s => s
  | .error _ s => s

/-- The answer of an action, or the fault in which it ends. -/
def outcomeOf {α : Type} : EStateM.Result Fault Session α → Except Fault α
  | .ok a _ => .ok a
  | .error e _ => .error e

/-- An action that does not end well ends in a fault. -/
theorem exists_eq_error_of_isOk {α : Type} {r : EStateM.Result Fault Session α}
    (h : (outcomeOf r).isOk = false) : ∃ e s, r = .error e s := by
  cases r with
  | ok a s => simp [outcomeOf, Except.isOk, Except.toBool] at h
  | error e s => exact ⟨e, s, rfl⟩

/-- **An action that keeps the frames and the configuration**, also if it ends in a fault. -/
def Keeps {α : Type} (act : Action α) : Prop := ∀ s : Session, s.Kept (sessionOf (act s))

namespace Keeps

variable {α β : Type}

theorem pure (a : α) : Keeps (Pure.pure a : Action α) := fun s => .refl s

theorem throw (e : Fault) : Keeps (MonadExcept.throw e : Action α) := fun s => .refl s

theorem get : Keeps (MonadState.get : Action Session) := fun s => .refl s

theorem bind {act : Action α} {next : α → Action β} (h : Keeps act) (hnext : ∀ a, Keeps (next a)) :
    Keeps (act >>= next) := by
  intro s
  have hs := h s
  show s.Kept (sessionOf (EStateM.bind act next s))
  unfold EStateM.bind
  cases hact : act s with
  | ok a s' =>
    rw [hact] at hs
    exact hs.trans (hnext a s')
  | error e s' =>
    rw [hact] at hs
    exact hs

theorem liftFault (x : Except Fault α) : Keeps (liftFault x) := by
  cases x with
  | ok a => exact pure a
  | error e => exact throw e

theorem modifyGet {f : Session → α × Session} (h : ∀ s : Session, s.Kept (f s).2) :
    Keeps (MonadState.modifyGet f : Action α) := fun s => h s

theorem modify {f : Session → Session} (h : ∀ s : Session, s.Kept (f s)) :
    Keeps (modifyThe Session f : Action PUnit) := fun s => h s

theorem ite {c : Prop} [Decidable c] {act act' : Action α} (h : Keeps act) (h' : Keeps act') :
    Keeps (if c then act else act') := by
  split
  · exact h
  · exact h'

/-- A guard in front of an action. -/
theorem guard {c : Prop} [Decidable c] {e : Fault} {rest : PUnit → Action α}
    (h : Keeps (rest ⟨⟩)) : Keeps (if c then MonadExcept.throw e >>= rest else rest ⟨⟩) :=
  .ite (.bind (.throw e) fun _ => h) h

/-- A frame is taken off again. -/
theorem withFrame {act : Action α} (h : Keeps act) (frame : Value) :
    Keeps (withFrame frame act) := by
  intro s
  have hs := h { s with frames := frame :: s.frames }
  unfold Mustache.withFrame
  cases hact : act { s with frames := frame :: s.frames } with
  | ok a s' =>
    rw [hact] at hs
    exact ⟨congrArg List.tail hs.frames, hs.engine, hs.asked, hs.counts⟩
  | error e s' =>
    rw [hact] at hs
    exact ⟨congrArg List.tail hs.frames, hs.engine, hs.asked, hs.counts⟩

/-- An expected fault leaves the session as it is. -/
theorem attempt (x : Expected) {act : Action α} (h : Keeps act) : Keeps (attempt x act) := by
  intro s
  have hs := h s
  unfold Mustache.attempt
  cases hact : act s with
  | ok a s' =>
    rw [hact] at hs
    exact hs
  | error e s' =>
    rw [hact] at hs
    dsimp only
    split <;> exact hs

end Keeps

/-! ## The session -/

theorem keeps_freshId : Keeps freshId :=
  .modifyGet fun _ => ⟨rfl, rfl, List.Subset.refl _, fun _ => Nat.le_refl _⟩

theorem keeps_freshTemplateId : Keeps freshTemplateId :=
  .modifyGet fun _ => ⟨rfl, rfl, List.Subset.refl _, fun _ => Nat.le_refl _⟩

theorem keeps_askFor (e : Engine) (source : String) : Keeps (askFor e source) :=
  .modifyGet fun _ => ⟨rfl, rfl, List.subset_cons_self _ _, fun _ => Nat.le_refl _⟩

theorem keeps_theEngine : Keeps theEngine :=
  .bind .get fun s => by
    cases s.engine with
    | some e => exact .pure e
    | none => exact .throw _

theorem keeps_engineOf (t : Template) : Keeps (engineOf t) :=
  .bind .get fun s => by
    cases s.engineOf? t with
    | some e => exact .pure e
    | none => exact .throw _

theorem keeps_modifyEngine {f : Engine → Engine} (h : ∀ e, (f e).settings = e.settings) :
    Keeps (modifyEngine f) := by
  refine .modify fun s => ⟨rfl, ?_, List.Subset.refl _, fun _ => Nat.le_refl _⟩
  cases s.engine with
  | none => rfl
  | some e => exact congrArg some (h e)

theorem keeps_logEvent (logger : Logger) (level : Level) (message : String) (fields : Fields) :
    Keeps (logEvent logger level message fields) := by
  refine .bind .get fun s => ?_
  cases logger.record? s.levels level message fields with
  | error e => exact .throw e
  | ok record =>
    cases record with
    | none => exact .pure ()
    | some record =>
      exact .modify fun _ => ⟨rfl, rfl, List.Subset.refl _, fun _ => Nat.le_refl _⟩

/-! ## Compiled texts -/

theorem keeps_parseSource (source : String) (name : Value) : Keeps (parseSource source name) := by
  unfold parseSource
  cases parse source name .usual with
  | ok tree => exact .pure tree
  | error e => exact .throw _

theorem keeps_makeTemplate (e : Engine) (source className : String) (name : Value)
    {tree : Action Tree} (h : Keeps tree) : Keeps (makeTemplate e source className name tree) :=
  .bind (keeps_logEvent _ _ _ _) fun _ => .bind h fun _ => .bind (keeps_logEvent _ _ _ _) fun _ =>
    .bind keeps_freshTemplateId fun _ => .pure _

theorem keeps_textFor (e : Engine) (source key : String) : Keeps (textFor e source key) := by
  unfold textFor
  split
  · exact .pure _
  · split
    · exact .bind (keeps_modifyEngine fun _ => rfl) fun _ => .pure _
    · exact .bind (keeps_parseSource _ _) fun tree =>
        .bind (keeps_makeTemplate _ _ _ _ (.pure tree)) fun _ =>
          .bind (keeps_modifyEngine fun _ => rfl) fun _ => .pure _

theorem keeps_loadText (text : String) (delims : Option String) :
    Keeps (loadText text delims) :=
  .bind keeps_theEngine fun _ => .bind (keeps_askFor _ _) fun _ => keeps_textFor _ _ _

/-- What has been asked for is in the history. -/
theorem mem_asked_of_askFor {α : Type} (e : Engine) (source : String)
    {next : String → Action α} (h : ∀ key, Keeps (next key)) (s : Session) :
    source ∈ (sessionOf ((askFor e source >>= next) s)).asked :=
  (h (e.className source) { s with asked := source :: s.asked }).asked List.mem_cons_self

/-! ## Calls -/

/-- Whatever is asked of the next level keeps the frames and the configuration. -/
structure Below.Keeps (below : Below) : Prop where
  render : ∀ t, Mustache.Keeps (below.render t)
  call : ∀ f self args, Mustache.Keeps (below.call f self args)

/-- A count in place of another one. -/
theorem lookup_filter_ne {id id' : Nat} (h : id' ≠ id) (tallies : List (Nat × Nat)) :
    (tallies.filter fun t => t.1 != id).lookup id' = tallies.lookup id' := by
  induction tallies with
  | nil => rfl
  | cons t ts ih =>
    obtain ⟨k, n⟩ := t
    by_cases hk : k = id
    · subst hk
      rw [List.filter_cons_of_neg (by simp), ih, List.lookup_cons, beq_eq_false_iff_ne.2 h]
    · rw [List.filter_cons_of_pos (by simpa using hk), List.lookup_cons, List.lookup_cons, ih]

/-- The count that is asked for is one more than before; no other one changes. -/
theorem Session.countOf_countUp (s : Session) (id id' : Nat) :
    (sessionOf (countUp id s)).countOf id' =
      if id' = id then s.countOf id + 1 else s.countOf id' := by
  show (((id, s.countOf id + 1) :: s.tallies.filter fun t => t.1 != id).lookup id').getD 0 = _
  split
  · next h => rw [h, List.lookup_cons, beq_self_eq_true]; rfl
  · next h => rw [List.lookup_cons, beq_eq_false_iff_ne.2 h, lookup_filter_ne h]; rfl

theorem keeps_countUp (id : Nat) : Keeps (countUp id) := by
  refine fun s => ⟨rfl, rfl, List.Subset.refl _, fun id' => ?_⟩
  rw [Session.countOf_countUp]
  split
  · next h => exact h ▸ Nat.le_succ _
  · exact Nat.le_refl _

/-- To keep the frames and the configuration is a relation that calls respect. -/
theorem Keeps.tolerance : Tolerance Eq Eq fun _ act _ => Keeps act where
  toCongruence := .of_same .pure .throw .bind keeps_freshId keeps_countUp fun _ =>
    .modify fun _ => ⟨rfl, rfl, List.Subset.refl _, fun _ => Nat.le_refl _⟩
  attempt _ x _ _ h := .attempt x h

section

variable {below : Below} (h : below.Keeps)

include h

theorem keeps_renderText (text : Value) (delims : Option String) :
    Keeps (renderText below text delims) :=
  .bind (.liftFault _) fun _ => .bind (keeps_loadText _ _) fun t => h.render t

theorem Below.Keeps.congruent :
    below.Congruent Eq (fun _ act _ => Mustache.Keeps act) Eq below :=
  Keeps.tolerance.congruent h.call (keeps_renderText h)

theorem Callable.keeps_invoke (f : Callable) (self : Option Object) (args : List Value) :
    Keeps (f.invoke below self args) :=
  Keeps.tolerance.invoke h.congruent rfl f self

namespace Value

theorem keeps_call (v : Value) (args : List Value) : Keeps (v.call below args) :=
  Keeps.tolerance.call h.congruent rfl v

theorem keeps_callLambda (v : Value) (args : List Value) : Keeps (v.callLambda below args) :=
  Keeps.tolerance.callLambda h.congruent (fun _ => rfl) v

theorem keeps_callMember (v : Value) (name : String) (args : List Value) :
    Keeps (v.callMember below name args) :=
  Keeps.tolerance.callMember h.congruent rfl v name

end Value

/-! ## Names -/

theorem keeps_findName (name : String) : Keeps (findName below name) :=
  Keeps.tolerance.findName h.congruent (fun hnext => .bind .get fun s => hnext s.frames) name

theorem keeps_findFiltered (site : FilterSite) : Keeps (findFiltered below site) :=
  Keeps.tolerance.findFiltered h.congruent (fun hnext => .bind .get fun s => hnext s.frames) rfl rfl
    fun _ => rfl

end

end Mustache
