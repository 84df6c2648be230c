import Mustache.Proofs.Render.Alike
import Mustache.Proofs.Session.Traversal

/-!
# Calls that only count

A callable that escapes is given a text and nothing else. As it has no means to render text, all
that it can do to the session is to count its calls, to make functions, and to leave traces of its
calls. So what it answers depends on the counts alone; and a call that ends well somewhere ends in
the same way where there are more levels left.

## Main definitions

* `Mustache.Tally` — the counts of a session.
* `Mustache.Quiet` — actions that only count, and that count alike.
* `Mustache.Escaping.written` — a text as it is escaped, and the counts afterwards.

## Main results

* `Mustache.Quiet.congruence` — a relation that calls respect.
* `Mustache.Callable.quiet_invoke` — calls without means to render.
* `Mustache.quiet_level` — calls with more levels left.
* `Mustache.Escaping.written_mono` — escaping with more levels left.
-/

namespace Mustache

/-! ## Counts -/

/-- The counts of a session: how often callables have been called, and the number of the next
function. -/
structure Tally where
  counts : List (Nat × Nat)
  nextId : Nat

namespace Session

/-- The counts of the session. -/
def tally (s : Session) : Tally := ⟨s.tallies, s.nextId⟩

/-- The session with other counts, and with other traces of calls. -/
def counted (s : Session) (τ : Tally) (calls : List (List Value)) : Session :=
  { s with calls, tallies := τ.counts, nextId := τ.nextId }

@[simp] theorem counted_counted (s : Session) (τ τ' : Tally) (calls calls' : List (List Value)) :
    (s.counted τ calls).counted τ' calls' = s.counted τ' calls' :=
  rfl

theorem counted_tally (s : Session) : s.counted s.tally s.calls = s := rfl

end Session

variable {α β : Type}

/-- **Actions that only count**: if the first one ends well, the session differs in the counts and
the traces only; and from the same counts, in whatever session, the second one gives the same answer
and the same counts. -/
def Quiet (act act' : Action α) : Prop :=
  ∀ s s' a s₁, s'.tally = s.tally → act s = .ok a s₁ → ∃ calls calls',
    s₁ = s.counted s₁.tally calls ∧ act' s' = .ok a (s'.counted s₁.tally calls')

namespace Quiet

theorem pure (a : α) : Quiet (Pure.pure a) (Pure.pure a) := by
  intro s s' b s₁ htally hrun
  obtain ⟨rfl, rfl⟩ := pure_eq_ok_iff.1 hrun
  exact ⟨s.calls, s'.calls, rfl, by rw [← htally, Session.counted_tally]; rfl⟩

theorem throw (e : Fault) (act : Action α) : Quiet (MonadExcept.throw e) act :=
  fun _ _ _ _ _ hrun => nomatch hrun

theorem bind {act act' : Action α} {next next' : α → Action β} (h : Quiet act act')
    (hnext : ∀ a, Quiet (next a) (next' a)) : Quiet (act >>= next) (act' >>= next') := by
  intro s s' b s₂ htally hrun
  obtain ⟨a, s₁, hact, hrest⟩ := bind_eq_ok_iff.1 hrun
  obtain ⟨calls, calls', hs₁, hact'⟩ := h s s' a s₁ htally hact
  obtain ⟨calls₂, calls₂', hs₂, hrest'⟩ := hnext a s₁ (s'.counted s₁.tally calls') b s₂ rfl hrest
  refine ⟨calls₂, calls₂', ?_, bind_eq_ok_iff.2 ⟨a, _, hact', hrest'⟩⟩
  rw [hs₁, Session.counted_counted] at hs₂
  exact hs₂

theorem ite {c : Prop} [Decidable c] {act₁ act₂ act₁' act₂' : Action α} (h₁ : Quiet act₁ act₁')
    (h₂ : Quiet act₂ act₂') : Quiet (if c then act₁ else act₂) (if c then act₁' else act₂') := by
  split
  · exact h₁
  · exact h₂

/-- The counts are changed, given what they are. -/
theorem modifyGet {f : Session → α × Session} {g : Tally → α × Tally}
    (h : ∀ s, ∃ calls, f s = ((g s.tally).1, s.counted (g s.tally).2 calls)) :
    Quiet (modifyGet f) (modifyGet f) := by
  intro s s' a s₁ htally hrun
  obtain ⟨calls, hf⟩ := h s
  obtain ⟨calls', hf'⟩ := h s'
  have hrun' : (EStateM.Result.ok (f s).1 (f s).2 : EStateM.Result Fault Session α) = .ok a s₁ :=
    hrun
  rw [hf, EStateM.Result.ok.injEq] at hrun'
  obtain ⟨rfl, rfl⟩ := hrun'
  refine ⟨calls, calls', rfl, ?_⟩
  show (EStateM.Result.ok (f s').1 (f s').2 : EStateM.Result Fault Session α) = _
  rw [hf', htally]
  rfl

end Quiet

theorem quiet_freshId : Quiet freshId freshId :=
  .modifyGet (g := fun τ => (τ.nextId, ⟨τ.counts, τ.nextId + 1⟩)) fun s => ⟨s.calls, rfl⟩

theorem quiet_countUp (id : Nat) : Quiet (countUp id) (countUp id) :=
  .modifyGet (g := fun τ =>
    let n := (τ.counts.lookup id).getD 0 + 1
    (n, ⟨(id, n) :: τ.counts.filter fun t => t.1 != id, τ.nextId⟩)) fun s => ⟨s.calls, rfl⟩

theorem quiet_trace (args : List Value) :
    Quiet (modify fun s : Session => { s with calls := args :: s.calls })
      (modify fun s : Session => { s with calls := args :: s.calls }) :=
  .modifyGet (g := fun τ => (⟨⟩, τ)) fun s => ⟨args :: s.calls, rfl⟩

/-! ## Calls -/

/-- Arguments with nothing to render with: behind the first one there is nothing but null. -/
def AreMute (args : List Value) : Prop := ∀ v ∈ args.tail, v = .null

theorem areMute_nil : AreMute [] := by simp [AreMute]

theorem areMute_singleton (v : Value) : AreMute [v] := by simp [AreMute]

/-- Positions that are left out hold null. -/
theorem AreMute.bind {args : List Value} (h : AreMute args) (signature : Signature) :
    AreMute (signature.bind args) := by
  cases signature with
  | hidden => exact h
  | parameters ps =>
    intro v hv
    rw [Signature.bind] at hv
    cases args with
    | nil => exact List.eq_of_mem_replicate (List.mem_of_mem_tail hv)
    | cons arg args =>
      rw [List.cons_append, List.tail_cons, List.mem_append] at hv
      rcases hv with hv | hv
      · exact h v hv
      · exact List.eq_of_mem_replicate hv

/-- The second of such arguments is null, if there is one. -/
theorem AreMute.eq_null {args : List Value} (h : AreMute args) {v : Value}
    (hv : Value.atIndex args 1 = .ok v) : v = .null := by
  cases args with
  | nil => simp [Value.atIndex] at hv
  | cons arg args =>
    cases args with
    | nil => simp [Value.atIndex] at hv
    | cons second args =>
      obtain rfl : second = v := by simpa [Value.atIndex] using hv
      exact h second List.mem_cons_self

/-- Calls without means to render only count, and the second level answers as the first one
does. -/
def Below.Quiet (below below' : Below) : Prop :=
  ∀ f self args, AreMute args → Mustache.Quiet (below.call f self args) (below'.call f self args)

/-- **To only count is a relation that calls respect.** -/
theorem Quiet.congruence : Congruence Eq Eq fun _ act act' => Quiet act act' :=
  .of_same .pure (fun e => .throw e _) .bind quiet_freshId quiet_countUp quiet_trace

/-- The same arguments on both sides, with nothing to render with. -/
def AreMuteAlike (args args' : List Value) : Prop := args' = args ∧ AreMute args

theorem Below.Quiet.congruent {below below' : Below} (h : below.Quiet below') :
    below.Congruent Eq (fun _ act act' => Mustache.Quiet act act') AreMuteAlike below' where
  arguments :=
    { values := fun hargs => hargs.1 ▸ List.forall₂_same.2 fun _ _ => rfl
      nil := ⟨rfl, areMute_nil⟩
      one := fun hv => hv ▸ ⟨rfl, areMute_singleton _⟩
      bind := fun hargs signature => ⟨hargs.1 ▸ rfl, hargs.2.bind signature⟩ }
  call f self _ _ hargs := by
    obtain ⟨rfl, hmute⟩ := hargs
    exact h f self _ hmute
  through {_ _} hargs {_ _} hv _ {_ _} _ := by
    obtain rfl := hargs.2.eq_null hv
    exact .throw .noAttribute _

/-- **A call without means to render only counts.** -/
theorem Callable.quiet_invoke {below below' : Below} (h : below.Quiet below') (f : Callable)
    (self : Option Object) {args : List Value} (hargs : AreMute args) :
    Quiet (f.invoke below self args) (f.invoke below' self args) :=
  Quiet.congruence.invoke h.congruent ⟨rfl, hargs⟩ f self

/-- **Calls without means to render with more levels left.**

**Proof sketch.** Induction on the number of levels. If none is left, no call ends well. -/
theorem quiet_level {m n : Nat} (hle : m ≤ n) : (level m).Quiet (level n) := by
  induction m generalizing n with
  | zero => exact fun _ _ _ _ => .throw _ _
  | succ m ih =>
    cases n with
    | zero => exact absurd hle (Nat.not_succ_le_zero m)
    | succ n =>
      intro f self args hargs
      exact Callable.quiet_invoke (ih (Nat.le_of_succ_le_succ hle)) f self hargs

/-! ## Escaping -/

theorem quiet_escapeText {m n : Nat} (hle : m ≤ n) (escaping : Escaping) (text : String) :
    Quiet (escapeText (level m) escaping text) (escapeText (level n) escaping text) := by
  unfold escapeText
  refine .ite (.pure _) ?_
  cases escaping with
  | off => exact .pure _
  | markup charset =>
    dsimp only
    split
    · exact .pure _
    · exact .throw _ _
  | custom f =>
    have hcall : Quiet (f.call (level m) [.text text]) (f.call (level n) [.text text]) :=
      Quiet.congruence.call (quiet_level hle).congruent ⟨rfl, areMute_singleton _⟩ f
    refine .bind hcall fun v => ?_
    cases v with
    | text s => exact .pure _
    | _ => exact .pure _

/-- **A text as it is escaped** at a level, and the counts afterwards; `none` if it cannot be
escaped, or not to a text. -/
def Escaping.written (escaping : Escaping) (depth : Nat) (text : String) (τ : Tally) :
    Option (String × Tally) :=
  match escapeText (level depth) escaping text ((default : Session).counted τ []) with
  | .ok (some x) s => some (x, s.tally)
  | _ => none

namespace Escaping

variable {escaping : Escaping} {depth : Nat} {text : String}

/-- A text is escaped alike in every session with the same counts. -/
theorem written_eq_some_iff (s : Session) {x : String} {τ : Tally} :
    escaping.written depth text s.tally = some (x, τ) ↔ ∃ calls,
      escapeText (level depth) escaping text s = .ok (some x) (s.counted τ calls) := by
  unfold written
  constructor
  · intro h
    split at h
    · next x' s' hrun =>
      obtain ⟨rfl, rfl⟩ := Prod.mk.inj (Option.some.inj h)
      obtain ⟨_, calls, -, hrun'⟩ := quiet_escapeText (Nat.le_refl depth) escaping text
        ((default : Session).counted s.tally []) s _ _ rfl hrun
      exact ⟨calls, hrun'⟩
    · simp at h
  · rintro ⟨calls, hrun⟩
    obtain ⟨_, calls', -, hrun'⟩ := quiet_escapeText (Nat.le_refl depth) escaping text s
      ((default : Session).counted s.tally []) _ _ rfl hrun
    rw [hrun']
    rfl

/-- **Escaping with more levels left.** -/
theorem written_mono {m n : Nat} (hle : m ≤ n) {τ : Tally} {r : String × Tally}
    (h : escaping.written m text τ = some r) : escaping.written n text τ = some r := by
  obtain ⟨x, τ'⟩ := r
  have hsession : ((default : Session).counted τ []).tally = τ := rfl
  rw [← hsession, written_eq_some_iff] at h ⊢
  obtain ⟨calls, hrun⟩ := h
  obtain ⟨_, calls', -, hrun'⟩ := quiet_escapeText hle escaping text _ _ _ _ rfl hrun
  exact ⟨calls', hrun'⟩

end Escaping

end Mustache
