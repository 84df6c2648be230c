import Mathlib.Tactic.Common
import Mustache.Proofs.Session.Events
import Mustache.Proofs.Session.Traversal

/-!
# Which arguments a call takes

Arguments by position are bound to parameters one after the other, and what is left of the
parameters has to do without. The counts of a signature decide which argument lists can be bound,
so that a lambda is given the longest part of what is on offer that it can take, and a method
is called on look-up if it can do without arguments.

## Main definitions

* `Mustache.Signature.BindsTo` — arguments by position can be bound to parameters.
* `Mustache.Signature.IsOrdered` — the order in which the parameters of a signature stand.
* `Mustache.Signature.IsLongest` — the longest front part of some arguments that can be bound.
* `Mustache.Value.enter` — what a call does once its arguments are bound.

## Main results

* `Mustache.Signature.accepts_iff` — the counts decide what can be bound.
* `Mustache.Signature.isLongest_take` — as many arguments are taken as can be bound.
* `Mustache.arity_respected` — calls of lambdas, and methods that a look-up finds.
-/

namespace Mustache

/-! ## Binding -/

namespace Signature

variable {α : Type}

/-- **Arguments that are given by position are bound to parameters**, in order. Nothing is given by
name, so that parameters that are bound by name need a default, as positions do for which no
argument is left. -/
inductive BindsTo : List Parameter → List α → Prop
  /-- There are no parameters, and no arguments. -/
  | done : BindsTo [] []
  /-- A position takes the next argument. -/
  | position {p : Parameter} {ps : List Parameter} {a : α} {args : List α}
    (takes : p.takesPosition = true) (others : BindsTo ps args) : BindsTo (p :: ps) (a :: args)
  /-- No argument is left for a position. -/
  | absent {p : Parameter} {ps : List Parameter} (takes : p.takesPosition = true)
    (optional : p.optional = true) (others : BindsTo ps ([] : List α)) : BindsTo (p :: ps) []
  /-- One parameter takes all further arguments. -/
  | further {p : Parameter} {ps : List Parameter} {args : List α} (kind : p.kind = .rest)
    (others : BindsTo ps ([] : List α)) : BindsTo (p :: ps) args
  /-- No name is given for a parameter that is bound by name. -/
  | unnamed {p : Parameter} {ps : List Parameter} {args : List α} (kind : p.kind = .keywordOnly)
    (optional : p.optional = true) (others : BindsTo ps args) : BindsTo (p :: ps) args
  /-- No further names are given. -/
  | noNames {p : Parameter} {ps : List Parameter} {args : List α} (kind : p.kind = .keywordRest)
    (others : BindsTo ps args) : BindsTo (p :: ps) args

/-- Some arguments can be bound. Without an inspectable signature all are let through. -/
def Binds (s : Signature) (args : List α) : Prop :=
  match s with
  | hidden => True
  | parameters ps => BindsTo ps args

/-- **The order of parameters.** A position stands in front of the parameter for all further
positions, and behind a position with a default it has one as well. -/
def IsOrdered : Signature → Prop
  | hidden => True
  | parameters ps => ps.Pairwise fun p q => q.takesPosition = true →
      p.kind ≠ .rest ∧ (p.takesPosition = true → p.optional = true → q.optional = true)

instance : DecidablePred IsOrdered := fun s =>
  match s with
  | hidden => inferInstanceAs (Decidable True)
  | parameters ps => inferInstanceAs (Decidable (ps.Pairwise _))

theorem takesPosition_iff {p : Parameter} :
    p.takesPosition = true ↔ p.kind = .positionalOnly ∨ p.kind = .positional := by
  simp [Parameter.takesPosition]

/-! ### What is bound first -/

section

variable {p : Parameter} {ps : List Parameter} {a : α} {args : List α}

theorem bindsTo_nil_iff : BindsTo ([] : List Parameter) args ↔ args = [] := by
  constructor
  · rintro ⟨⟩
    rfl
  · rintro rfl
    exact .done

theorem bindsTo_cons_cons_iff (hp : p.takesPosition = true) :
    BindsTo (p :: ps) (a :: args) ↔ BindsTo ps args := by
  refine ⟨fun h => ?_, .position hp⟩
  cases h with
  | position _ others => exact others
  | further kind _ => simp [Parameter.takesPosition, kind] at hp
  | unnamed kind _ _ => simp [Parameter.takesPosition, kind] at hp
  | noNames kind _ => simp [Parameter.takesPosition, kind] at hp

theorem bindsTo_cons_nil_iff (hp : p.takesPosition = true) :
    BindsTo (p :: ps) ([] : List α) ↔ p.optional = true ∧ BindsTo ps ([] : List α) := by
  refine ⟨fun h => ?_, fun h => .absent hp h.1 h.2⟩
  cases h with
  | absent _ optional others => exact ⟨optional, others⟩
  | further kind _ => simp [Parameter.takesPosition, kind] at hp
  | unnamed kind _ _ => simp [Parameter.takesPosition, kind] at hp
  | noNames kind _ => simp [Parameter.takesPosition, kind] at hp

theorem bindsTo_rest_iff (hp : p.kind = .rest) :
    BindsTo (p :: ps) args ↔ BindsTo ps ([] : List α) := by
  refine ⟨fun h => ?_, .further hp⟩
  cases h with
  | position takes _ => simp [Parameter.takesPosition, hp] at takes
  | absent takes _ _ => simp [Parameter.takesPosition, hp] at takes
  | further _ others => exact others
  | unnamed kind _ _ => simp [hp] at kind
  | noNames kind _ => simp [hp] at kind

theorem bindsTo_keywordOnly_iff (hp : p.kind = .keywordOnly) :
    BindsTo (p :: ps) args ↔ p.optional = true ∧ BindsTo ps args := by
  refine ⟨fun h => ?_, fun h => .unnamed hp h.1 h.2⟩
  cases h with
  | position takes _ => simp [Parameter.takesPosition, hp] at takes
  | absent takes _ _ => simp [Parameter.takesPosition, hp] at takes
  | further kind _ => simp [hp] at kind
  | unnamed _ optional others => exact ⟨optional, others⟩
  | noNames kind _ => simp [hp] at kind

theorem bindsTo_keywordRest_iff (hp : p.kind = .keywordRest) :
    BindsTo (p :: ps) args ↔ BindsTo ps args := by
  refine ⟨fun h => ?_, .noNames hp⟩
  cases h with
  | position takes _ => simp [Parameter.takesPosition, hp] at takes
  | absent takes _ _ => simp [Parameter.takesPosition, hp] at takes
  | further kind _ => simp [hp] at kind
  | unnamed kind _ _ => simp [hp] at kind
  | noNames _ others => exact others

end

/-! ### Counts -/

section

variable {p : Parameter} {ps : List Parameter} {n : Nat}

theorem accepts_parameters_iff :
    (parameters ps).accepts n = true ↔ neededPositions ps ≤ n ∧
      (isVariadic ps = true ∨ n ≤ positions ps) ∧
        ∀ p ∈ ps, p.kind = .keywordOnly → p.optional = true := by
  simp [accepts, and_assoc]

/-- A position is one more argument that can be given, and that must be given unless there is a
default. -/
theorem counts_cons_of_takes (hp : p.takesPosition = true) (ps : List Parameter) :
    positions (p :: ps) = positions ps + 1 ∧
      neededPositions (p :: ps) = neededPositions ps + (if p.optional then 0 else 1) ∧
        isVariadic (p :: ps) = isVariadic ps := by
  refine ⟨?_, ?_, ?_⟩
  · rw [positions, List.filter_cons_of_pos hp, List.length_cons, positions]
  · cases hopt : p.optional <;> simp [neededPositions, Parameter.needed, hp, hopt]
  · rcases takesPosition_iff.1 hp with hk | hk <;> simp [isVariadic, hk]

/-- A parameter that takes no single position is not counted. -/
theorem counts_cons_of_not_takes (hp : p.takesPosition = false) (ps : List Parameter) :
    positions (p :: ps) = positions ps ∧ neededPositions (p :: ps) = neededPositions ps := by
  simp [positions, neededPositions, hp]

/-- Where every position has a default, none has to be given. -/
theorem neededPositions_eq_zero
    (h : ∀ p ∈ ps, p.takesPosition = true → p.optional = true) : neededPositions ps = 0 := by
  rw [neededPositions, List.length_eq_zero_iff, List.filter_eq_nil_iff]
  intro p hp
  by_cases htakes : p.takesPosition = true
  · simp [Parameter.needed, h p hp htakes]
  · simp [htakes]

theorem accepts_cons_zero_iff (hp : p.takesPosition = true) :
    (parameters (p :: ps)).accepts 0 = true ↔
      p.optional = true ∧ (parameters ps).accepts 0 = true := by
  obtain ⟨-, hneeded, -⟩ := counts_cons_of_takes hp ps
  rw [accepts_parameters_iff, accepts_parameters_iff, hneeded, List.forall_mem_cons]
  cases hopt : p.optional <;> simp

/-- A position takes an argument. If it has a default, so have all positions behind it, and then
none of them is lacking. -/
theorem accepts_cons_succ_iff (hp : p.takesPosition = true)
    (hps : p.optional = true → neededPositions ps = 0) :
    (parameters (p :: ps)).accepts (n + 1) = true ↔ (parameters ps).accepts n = true := by
  obtain ⟨hpositions, hneeded, hvariadic⟩ := counts_cons_of_takes hp ps
  have hnames : p.kind = .keywordOnly → p.optional = true := by
    rcases takesPosition_iff.1 hp with hk | hk <;> simp [hk]
  have hle : neededPositions ps + (if p.optional then 0 else 1) ≤ n + 1 ↔
      neededPositions ps ≤ n := by
    cases hopt : p.optional with
    | false => simp
    | true => simp [hps hopt]
  rw [accepts_parameters_iff, accepts_parameters_iff, hpositions, hneeded, hvariadic, hle,
    Nat.add_le_add_iff_right, List.forall_mem_cons, and_iff_right hnames]

/-- The parameter for all further positions takes any number of arguments. -/
theorem accepts_rest_iff (hp : p.kind = .rest) (hps : neededPositions ps = 0) :
    (parameters (p :: ps)).accepts n = true ↔ (parameters ps).accepts 0 = true := by
  have htakes : p.takesPosition = false := by simp [Parameter.takesPosition, hp]
  obtain ⟨-, hneeded⟩ := counts_cons_of_not_takes htakes ps
  rw [accepts_parameters_iff, accepts_parameters_iff, hneeded, hps, List.forall_mem_cons]
  simp [isVariadic, hp]

/-- A parameter that is bound by name changes no count. -/
theorem accepts_named_iff (hp : p.kind = .keywordOnly ∨ p.kind = .keywordRest) :
    (parameters (p :: ps)).accepts n = true ↔
      (p.kind = .keywordOnly → p.optional = true) ∧ (parameters ps).accepts n = true := by
  have htakes : p.takesPosition = false := by
    rcases hp with hk | hk <;> simp [Parameter.takesPosition, hk]
  have hvariadic : isVariadic (p :: ps) = isVariadic ps := by
    rcases hp with hk | hk <;> simp [isVariadic, hk]
  obtain ⟨hpositions, hneeded⟩ := counts_cons_of_not_takes htakes ps
  rw [accepts_parameters_iff, accepts_parameters_iff, hpositions, hneeded, hvariadic,
    List.forall_mem_cons]
  tauto

end

/-- **The counts decide what can be bound.**

**Proof sketch.** Induction on the parameters: what is bound first is taken off on both sides. The
order is used twice: behind a position with a default no position is needed, and behind the
parameter for all further positions there is none. -/
theorem accepts_iff_bindsTo {ps : List Parameter} (hps : (parameters ps).IsOrdered)
    (args : List α) : (parameters ps).accepts args.length = true ↔ BindsTo ps args := by
  induction ps generalizing args with
  | nil =>
    rw [bindsTo_nil_iff, accepts_parameters_iff]
    simp [neededPositions, isVariadic, positions]
  | cons p ps ih =>
    obtain ⟨hp, hps⟩ := List.pairwise_cons.1 hps
    have ih := ih hps
    cases hk : p.kind with
    | positionalOnly | positional =>
      have htakes : p.takesPosition = true := takesPosition_iff.2 (by simp [hk])
      cases args with
      | nil =>
        rw [bindsTo_cons_nil_iff htakes, ← ih [], List.length_nil]
        exact accepts_cons_zero_iff htakes
      | cons a args =>
        rw [bindsTo_cons_cons_iff htakes, ← ih args, List.length_cons]
        apply accepts_cons_succ_iff htakes
        intro hopt
        exact neededPositions_eq_zero fun q hq hq' => (hp q hq hq').2 htakes hopt
    | rest =>
      rw [bindsTo_rest_iff hk, ← ih [], List.length_nil]
      apply accepts_rest_iff hk
      exact neededPositions_eq_zero fun q hq hq' => absurd hk (hp q hq hq').1
    | keywordOnly =>
      rw [bindsTo_keywordOnly_iff hk, ← ih args, accepts_named_iff (.inl hk)]
      simp [hk]
    | keywordRest =>
      rw [bindsTo_keywordRest_iff hk, ← ih args, accepts_named_iff (.inr hk)]
      simp [hk]

/-- A signature lets arguments through if they can be bound. -/
theorem accepts_iff {s : Signature} (hs : s.IsOrdered) (args : List α) :
    s.accepts args.length = true ↔ s.Binds args := by
  cases s with
  | hidden => simp [accepts, Binds]
  | parameters ps => exact accepts_iff_bindsTo hs args

/-! ### What is taken -/

/-- **The longest front part of some arguments that can be bound.** -/
structure IsLongest (s : Signature) (args front : List α) : Prop where
  isFront : front <+: args
  binds : s.Binds front
  longest : ∀ other, other <+: args → s.Binds other → other.length ≤ front.length

/-- As many arguments are taken as can be bound. -/
theorem taken_of_accepts {s : Signature} {count offered : Nat} (h : s.accepts count = true)
    (hle : count ≤ offered) : s.accepts (s.taken offered) = true ∧ count ≤ s.taken offered := by
  cases s with
  | hidden => exact ⟨rfl, hle⟩
  | parameters ps =>
    obtain ⟨hneeded, hcount, hnames⟩ := accepts_parameters_iff.1 h
    rw [accepts_parameters_iff, taken]
    by_cases hvariadic : isVariadic ps = true
    · simp only [hvariadic, if_true]
      exact ⟨⟨by omega, .inl trivial, hnames⟩, hle⟩
    · have hmost : count ≤ positions ps := hcount.resolve_left hvariadic
      simp only [hvariadic]
      refine ⟨⟨?_, .inr ?_, hnames⟩, ?_⟩
      · simp only [Bool.false_eq_true, if_false]
        omega
      · simp only [Bool.false_eq_true, if_false]
        omega
      · simp only [Bool.false_eq_true, if_false]
        omega

theorem taken_le (s : Signature) (offered : Nat) : s.taken offered ≤ offered := by
  unfold taken
  split
  · exact Nat.le_refl _
  · split <;> omega

/-- **The arguments that are taken are the longest front part that can be bound**, if one can. -/
theorem isLongest_take {s : Signature} (hs : s.IsOrdered) {args other : List α}
    (hother : other <+: args) (hbinds : s.Binds other) :
    s.IsLongest args (args.take (s.taken args.length)) := by
  have hlength : (args.take (s.taken args.length)).length = s.taken args.length :=
    List.length_take_of_le (s.taken_le _)
  have hmost {more : List α} (hmore : more <+: args) (h : s.Binds more) :=
    taken_of_accepts ((accepts_iff hs more).2 h) hmore.length_le
  refine ⟨List.take_prefix _ _, ?_, ?_⟩
  · rw [← accepts_iff hs, hlength]
    exact (hmost hother hbinds).1
  · intro more hmore h
    rw [hlength]
    exact (hmost hmore h).2

/-- Whether nothing is needed is whether no arguments can be bound. -/
theorem needsNothing_iff {ps : List Parameter} (hps : (parameters ps).IsOrdered) :
    (parameters ps).needsNothing = true ↔ (parameters ps).Binds ([] : List α) := by
  rw [← accepts_iff hps, List.length_nil, accepts_parameters_iff]
  have hneeded : neededPositions ps ≤ 0 ↔ ∀ p ∈ ps, p.takesPosition = true → p.optional = true := by
    rw [Nat.le_zero]
    refine ⟨fun h p hp htakes => ?_, neededPositions_eq_zero⟩
    rw [neededPositions, List.length_eq_zero_iff, List.filter_eq_nil_iff] at h
    simpa [htakes, Parameter.needed] using h p hp
  rw [hneeded]
  simp only [needsNothing, Parameter.needed, Bool.not_eq_true', List.any_eq_false, Nat.zero_le,
    or_true, true_and, ← forall_and]
  refine forall_congr' fun p => ?_
  cases p.optional <;> simp

end Signature

/-! ## Calls -/

/-- What a call of a callable does once the arguments are bound: it evaluates the body. -/
def Callable.enter (below : Below) (f : Callable) (self : Option Object) (args : List Value) :
    Action Value := do
  let bound := f.signature.bind args
  if f.traced then modify fun s => { s with calls := bound :: s.calls }
  f.body.eval below { id := f.id, self, args := bound }

/-- A call fails if the arguments cannot be bound, before anything else happens. -/
theorem Callable.invoke_eq (below : Below) (f : Callable) (self : Option Object)
    (args : List Value) : f.invoke below self args =
      if f.signature.accepts args.length then f.enter below self args else throw .wrongKind := by
  unfold invoke
  cases f.signature.accepts args.length with
  | true => rfl
  | false => rfl

namespace Value

/-- What a call of a value does once the arguments are bound. -/
def enter (below : Below) (v : Value) (args : List Value) : Action Value :=
  match v.callee? with
  | some (f, self) => f.enter below self args
  | none =>
    match v with
    | type _ name => do pure (plainObject (← freshId) name)
    | topType => do pure (plainObject (← freshId) "object")
    | lineage id name => pure (list [type id name, topType])
    | _ => throw .wrongKind

variable {below : Below} {v : Value} {sig : Signature} {args : List Value} {s s' s'' : Session}

/-- The signature of a value is that of the function that its call runs. -/
theorem ownSignature_of_callee? {c : Callable × Option Object} (hc : v.callee? = some c) :
    v.ownSignature = c.1.signature := by
  have hown : (v.callee?.map fun c => c.1.signature).getD .hidden = c.1.signature := by rw [hc]; rfl
  cases v with
  | type | topType | lineage => simp [callee?] at hc
  | _ => exact hown

theorem call_eq (h : v.isCallable = true) (args : List Value) :
    v.call below args =
      if v.ownSignature.accepts args.length then v.enter below args else throw .wrongKind := by
  unfold call enter
  cases hc : v.callee? with
  | some c =>
    rw [ownSignature_of_callee? hc]
    exact c.1.invoke_eq below c.2 args
  | none =>
    cases v <;> simp_all [isCallable, callee?]
    all_goals
      cases args <;> simp [ownSignature, Signature.accepts, Signature.neededPositions,
        Signature.isVariadic, Signature.positions]

/-! ### Inspection -/

/-- What is no object has its own signature. -/
theorem inspect_of_no_object (h : ∀ o, v ≠ .object o) (below : Below) :
    v.inspect below = pure v.ownSignature := by
  unfold inspect
  rw [signatureWithin_of_no_object h]
  rfl

/-- An object that wraps nothing and states no signature has its own. -/
theorem inspect_of_object {o : Object}
    (hwrapped : (object o).member? below wrappedName s = .ok none s')
    (hstated : (object o).member? below statedName s' = .ok none s'') :
    (object o).inspect below s = .ok (object o).ownSignature s'' := by
  have hwraps : (object o).wrapped? below s = .ok none s' := by
    unfold wrapped?
    rw [bind_of_ok hwrapped]
    rfl
  have hstates : (object o).statedSignature below s' = .ok (object o).ownSignature s'' := by
    unfold statedSignature
    rw [bind_of_ok hstated]
    rfl
  have hown : signatureWithin below inspectionLimit (object o) s =
      .ok (object o).ownSignature s'' := by
    unfold signatureWithin
    rw [bind_of_ok hwraps]
    exact hstates
  have hattempt : attempt .unfit (signatureWithin below inspectionLimit (object o)) s =
      .ok (some (object o).ownSignature) s'' := by
    unfold attempt
    rw [hown]
  unfold inspect
  rw [bind_of_ok hattempt]
  rfl

end Value

section

variable {below : Below} {v : Value} {args : List Value} {sig : Signature} {s s' : Session}

/-- A lambda is given as many of the arguments as the signature takes that is found. -/
theorem callLambda_eq (hsig : v.inspect below s = .ok sig s') (args : List Value) :
    v.callLambda below args s = v.call below (args.take (sig.taken args.length)) s' :=
  bind_of_ok hsig

/-- Where no front part can be bound, neither can the one that is taken. -/
theorem callLambda_eq_error (hv : v.isCallable = true)
    (hsig : v.inspect below s = .ok v.ownSignature s') (hordered : v.ownSignature.IsOrdered)
    (hnone : ∀ other, other <+: args → ¬ v.ownSignature.Binds other) :
    v.callLambda below args s = .error .wrongKind s' := by
  rw [callLambda_eq hsig, Value.call_eq hv, if_neg]
  · rfl
  · rw [Signature.accepts_iff hordered]
    exact hnone _ (List.take_prefix _ _)

/-! ## Methods -/

/-- A method that a look-up finds is called or left as it is. -/
theorem memberNamed_of_method {name : String} {self : Object} {f : Callable} {s s' : Session}
    (htable : ∀ es, v ≠ .dict es) (hname : Value.isPrivate name = false)
    (hfound : v.member? below name s = .ok (some (.method self f)) s') :
    v.memberNamed below name s =
      if f.signature.needsNothing then f.invoke below (some self) [] s'
      else .ok (.method self f) s' := by
  unfold Value.memberNamed
  split
  · exact absurd rfl (htable _)
  · rw [if_neg (by simp [hname]), bind_of_ok hfound]
    dsimp only
    split <;> rfl

/-- **Arguments that are taken.**

* A lambda is called with the longest front part of the arguments that the signature binds which
  inspection finds for it, if it binds one at all, and with all of them if no signature is found.
* Inspection finds the signature of the lambda itself, unless it is that of an object that wraps
  another value or states a signature.
* What a lambda can bind by its own signature is bound when it is called. If inspection finds this
  signature, the call fails before the body is evaluated only if no front part can be bound.
* A method that is found as an attribute is called if its signature shows that a call without
  arguments can be bound. Otherwise, and also if the signature cannot be inspected, the method is
  what the name stands for, and it is a lambda. -/
theorem arity_respected (below : Below) :
    (∀ (v : Value) (args : List Value) (sig : Signature) (s s' : Session),
      v.inspect below s = .ok sig s' →
        (sig = .hidden → v.callLambda below args s = v.call below args s') ∧
        (sig.IsOrdered → ∀ other, other <+: args → sig.Binds other →
          ∃ taken, sig.IsLongest args taken ∧ v.callLambda below args s = v.call below taken s')) ∧
    (∀ v : Value, (∀ o, v ≠ .object o) → v.inspect below = pure v.ownSignature) ∧
    (∀ (o : Object) (s s' s'' : Session),
      (Value.object o).member? below Value.wrappedName s = .ok none s' →
      (Value.object o).member? below Value.statedName s' = .ok none s'' →
        (Value.object o).inspect below s = .ok (Value.object o).ownSignature s'') ∧
    (∀ (v : Value) (args : List Value), v.isCallable = true → v.ownSignature.IsOrdered →
      (v.ownSignature.Binds args → v.call below args = v.enter below args) ∧
      ∀ s s' : Session, v.inspect below s = .ok v.ownSignature s' →
        (∀ other, other <+: args → ¬ v.ownSignature.Binds other) →
          v.callLambda below args s = .error .wrongKind s') ∧
    ∀ (v : Value) (name : String) (self : Object) (f : Callable) (s s' : Session),
      (∀ es, v ≠ .dict es) → Value.isPrivate name = false →
      v.member? below name s = .ok (some (.method self f)) s' →
      (f.signature = .hidden → v.memberNamed below name s = .ok (.method self f) s') ∧
      (∀ ps, f.signature = .parameters ps → f.signature.IsOrdered →
        (f.signature.Binds ([] : List Value) →
          v.memberNamed below name s = f.enter below (some self) [] s') ∧
        (¬ f.signature.Binds ([] : List Value) →
          v.memberNamed below name s = .ok (.method self f) s')) ∧
      (Value.method self f).isLambda = true := by
  refine ⟨?found, fun v hv => Value.inspect_of_no_object hv below,
    fun o s s' s'' hwrapped hstated => Value.inspect_of_object hwrapped hstated, ?bound, ?method⟩
  case found =>
    intro v args sig s s' hsig
    constructor
    · rintro rfl
      rw [callLambda_eq hsig, Signature.taken, List.take_length]
    · intro hordered other hother hbinds
      exact ⟨_, Signature.isLongest_take hordered hother hbinds, callLambda_eq hsig args⟩
  case bound =>
    intro v args hv hordered
    constructor
    · intro hbinds
      rw [Value.call_eq hv, if_pos ((Signature.accepts_iff hordered _).2 hbinds)]
    · intro s s' hsig hnone
      exact callLambda_eq_error hv hsig hordered hnone
  case method =>
    intro v name self f s s' htable hname hfound
    have hmember := memberNamed_of_method htable hname hfound
    refine ⟨fun hhidden => ?_, fun ps hps hordered => ⟨fun hbinds => ?_, fun hbinds => ?_⟩, rfl⟩
    · rw [hmember, hhidden]
      rfl
    · have hneeds : f.signature.needsNothing = true := by
        rw [hps] at hordered hbinds ⊢
        exact (Signature.needsNothing_iff hordered).2 hbinds
      have haccepts : f.signature.accepts 0 = true :=
        (Signature.accepts_iff hordered ([] : List Value)).2 hbinds
      rw [hmember, if_pos hneeds, f.invoke_eq, List.length_nil, if_pos haccepts]
    · have hneeds : f.signature.needsNothing ≠ true := by
        rw [hps] at hordered hbinds ⊢
        rwa [Ne, Signature.needsNothing_iff hordered]
      rw [hmember, if_neg hneeds]

end

/-! ### A parameter with a default, and a method that hides its signature -/

/-- A function of two arguments, the second of which has a default. -/
def twoOrOne : Callable :=
  { id := 0, body := .arg 1, traced := false
    signature := .parameters [⟨"a", .positional, false⟩, ⟨"b", .positional, true⟩] }

/-- A method that needs nothing. -/
def needless : Callable := ⟨1, .parameters [], .lit (.text "x"), false⟩

/-- A method that takes any arguments, and the signature of which cannot be inspected. -/
def uninspected : Callable := ⟨2, .hidden, .lit (.text "x"), false⟩

/-- An object with these methods. -/
def methodHolder : Object :=
  { id := 0, className := "C", attributes := [], statics := [], properties := [], shown := none, call := none
    methods := [("open", needless), ("hidden", uninspected)] }

/-- Nothing below can be asked for anything. -/
def Below.closed : Below := ⟨fun _ => throw .wrongKind, fun _ _ _ => throw .wrongKind⟩

/-- Three arguments are offered to the function of two, and the method that needs nothing is looked
up. -/
theorem arity_respected_two :
    twoOrOne.signature.IsOrdered ∧
      (Value.function twoOrOne).callLambda .closed [.int 1, .int 2, .int 3] default =
        .ok (.int 2) default ∧
      (Value.object methodHolder).memberNamed .closed "open" default = .ok (.text "x") default := by
  have hordered : twoOrOne.signature.IsOrdered := by decide
  obtain ⟨hfound, hinspect, -, hbound, hmethod⟩ := arity_respected .closed
  have hone : twoOrOne.signature.Binds [Value.int 1] :=
    .position rfl (.absent rfl rfl .done)
  have htwo : twoOrOne.signature.Binds [Value.int 1, .int 2] :=
    .position rfl (.position rfl .done)
  have hsig : (Value.function twoOrOne).inspect .closed default =
      .ok twoOrOne.signature default := by
    rw [hinspect (.function twoOrOne) fun o h => nomatch h]
    rfl
  obtain ⟨taken, hlongest, hcall⟩ := (hfound (.function twoOrOne) [.int 1, .int 2, .int 3] _ _ _
    hsig).2 hordered [.int 1] ⟨[.int 2, .int 3], rfl⟩ hone
  obtain rfl : taken = [.int 1, .int 2] := by
    have hge := hlongest.longest [.int 1, .int 2] ⟨[.int 3], rfl⟩ htwo
    have hle : taken.length ≤ 2 := by
      have haccepts := (Signature.accepts_iff hordered taken).2 hlongest.binds
      have hcount := (Signature.accepts_parameters_iff.1 haccepts).2.1
      simpa [Signature.isVariadic, Signature.positions, Parameter.takesPosition] using hcount
    rw [List.prefix_iff_eq_take.1 hlongest.isFront, Nat.le_antisymm hle hge]
    rfl
  have henter := (hbound (.function twoOrOne) [.int 1, .int 2] rfl hordered).1 htwo
  obtain ⟨-, hopen, -⟩ := hmethod (.object methodHolder) "open" methodHolder needless default
    default (by simp) (by decide +kernel) rfl
  exact ⟨hordered, hcall.trans (congrFun henter default), (hopen [] rfl .nil).1 .done⟩

/-- **A method is not called whenever a call without arguments can be bound**: one without an
inspectable signature takes any arguments, and is left as it is. -/
theorem exists_method_not_called :
    ¬ ∀ (below : Below) (v : Value) (name : String) (self : Object) (f : Callable) (s s' : Session),
      Value.isPrivate name = false → v.member? below name s = .ok (some (.method self f)) s' →
      f.signature.Binds ([] : List Value) →
      v.memberNamed below name s = f.enter below (some self) [] s' := by
  intro h
  have hname : Value.isPrivate "hidden" = false := by decide +kernel
  have hfound : (Value.object methodHolder).member? .closed "hidden" default =
      .ok (some (.method methodHolder uninspected)) default := rfl
  have hleft := memberNamed_of_method (by simp) hname hfound
  have hcalled := h _ _ _ _ _ _ _ hname hfound trivial
  have hruns : uninspected.enter .closed (some methodHolder) [] default =
      .ok (.text "x") default := rfl
  rw [hcalled, hruns, if_neg (by decide)] at hleft
  injection hleft with hvalue
  simp at hvalue

end Mustache
