import Mustache.Proofs.Session.Storing

/-!
# Actions up to a cache that cannot be written

If a tree cannot be stored, the fault makes its way up to the outermost action: nothing that runs
below takes it for anything else. So it does not matter what would be done after such a fault. An
action is said here to accord with another one if both do the same, unless the first one is cut
short because a cache cannot be written.

## Main definitions

* `Mustache.Accords` — an action that does as another one does, unless it is cut short.
* `Mustache.Below.Accords` — levels that accord with one another.

## Main results

* `Mustache.Accords.bind`, `Mustache.Accords.attempt`, `Mustache.Accords.withFrame` — what is made
  of such actions.
* `Mustache.Accords.tolerance` — a relation that calls respect.
* `Mustache.accords_findFiltered`, `Mustache.accords_treeOf`, `Mustache.Loader.accords_find` —
  names, described trees and loaders.
* `Mustache.accords_loadTemplateBy`, `Mustache.accords_loadPartialBy?` — loading.
-/

namespace Mustache

/-! ## Actions in accord -/

section

variable {α β : Type}

/-- The end of an action, in another session. -/
def endingIn (f : Session → Session) :
    EStateM.Result Fault Session α → EStateM.Result Fault Session α
  | .ok a s => .ok a (f s)
  | .error e s => .error e (f s)

/-- The end of an action, with certain faults taken for the lack of an answer. -/
def sparing (minor : Fault → Bool) :
    EStateM.Result Fault Session α → EStateM.Result Fault Session (Option α)
  | .ok a s => .ok (some a) s
  | .error e s => if minor e then .ok none s else .error e s

/-- **An action accords with another one** if it does the same, unless it is cut short because a
cache cannot be written. -/
def Accords (act act' : Action α) : Prop :=
  ∀ s, act s = act' s ∨ ∃ e s', e.IsUnwritten ∧ act s = .error e s'

namespace Accords

variable {act act' : Action α}

theorem refl (act : Action α) : Accords act act := fun _ => .inl rfl

theorem bind {next next' : α → Action β} (h : Accords act act')
    (hnext : ∀ a, Accords (next a) (next' a)) : Accords (act >>= next) (act' >>= next') := by
  intro s
  rcases h s with hsame | ⟨e, s', he, hact⟩
  · cases hact : act s with
    | ok a s' =>
      rw [bind_of_ok hact, bind_of_ok (hsame ▸ hact)]
      exact hnext a s'
    | error e s' =>
      rw [bind_of_error hact, bind_of_error (hsame ▸ hact)]
      exact .inl rfl
  · exact .inr ⟨e, s', he, bind_of_error hact⟩

/-- What is done in another session, and what is made of its end, if this leaves the fault of a
cache as it is. -/
theorem around (h : Accords act act') (before : Session → Session)
    (after : Session → EStateM.Result Fault Session α → EStateM.Result Fault Session β)
    (hafter : ∀ s e s', e.IsUnwritten → ∃ s'', after s (.error e s') = .error e s'') :
    Accords (fun s => after s (act (before s))) (fun s => after s (act' (before s))) := by
  intro s
  rcases h (before s) with hsame | ⟨e, s', he, hact⟩
  · exact .inl (congrArg (after s) hsame)
  · obtain ⟨s'', hs''⟩ := hafter s e s' he
    exact .inr ⟨e, s'', he, (congrArg (after s) hact).trans hs''⟩

theorem withFrame (h : Accords act act') (frame : Value) :
    Accords (withFrame frame act) (withFrame frame act') :=
  h.around (fun s => { s with frames := frame :: s.frames })
    (fun _ => endingIn fun s' => { s' with frames := s'.frames.tail }) fun _ _ _ _ => ⟨_, rfl⟩

theorem withFrames (h : Accords act act') (frames : List Value) :
    Accords (withFrames frames act) (withFrames frames act') :=
  h.around (fun s => { s with frames })
    (fun s => endingIn fun s' => { s' with frames := s.frames }) fun _ _ _ _ => ⟨_, rfl⟩

/-- Nobody expects the fault of a cache. -/
theorem attempt (x : Expected) (h : Accords act act') : Accords (attempt x act) (attempt x act') :=
  h.around id (fun _ => sparing x.covers) fun _ _ s' he =>
    ⟨s', if_neg (Bool.eq_false_iff.1 (he.covers x))⟩

end Accords

end

/-- **A level that accords with another one.** -/
structure Below.Accords (below below' : Below) : Prop where
  call : ∀ f self args, Mustache.Accords (below.call f self args) (below'.call f self args)
  render : ∀ t, Mustache.Accords (below.render t) (below'.render t)

/-! ## Calls -/

/-- **To do as another action does is a relation that calls respect.** -/
theorem Accords.tolerance : Tolerance Eq Eq fun _ act act' => Accords act act' where
  toCongruence := .of_same (fun _ => .refl _) (fun _ => .refl _) .bind (.refl _) (fun _ => .refl _)
    fun _ => .refl _
  attempt _ x _ _ h := .attempt x h

section

variable {below below' : Below} (h : below.Accords below')

include h

theorem accords_renderText (text : Value) (delims : Option String) :
    Accords (renderText below text delims) (renderText below' text delims) :=
  .bind (.refl _) fun _ => .bind (.refl _) fun t => h.render t

theorem Below.Accords.congruent :
    below.Congruent Eq (fun _ act act' => Mustache.Accords act act') Eq below' :=
  Accords.tolerance.congruent h.call (accords_renderText h)

theorem Callable.accords_invoke (f : Callable) (self : Option Object) (args : List Value) :
    Accords (f.invoke below self args) (f.invoke below' self args) :=
  Accords.tolerance.invoke h.congruent rfl f self

namespace Value

theorem accords_call (v : Value) (args : List Value) :
    Accords (v.call below args) (v.call below' args) :=
  Accords.tolerance.call h.congruent rfl v

theorem accords_callLambda (v : Value) (args : List Value) :
    Accords (v.callLambda below args) (v.callLambda below' args) :=
  Accords.tolerance.callLambda h.congruent (fun _ => rfl) v

theorem accords_callMember (v : Value) (name : String) (args : List Value) :
    Accords (v.callMember below name args) (v.callMember below' name args) :=
  Accords.tolerance.callMember h.congruent rfl v name

end Value

theorem accords_findFiltered (site : FilterSite) :
    Accords (findFiltered below site) (findFiltered below' site) :=
  Accords.tolerance.findFiltered h.congruent
    (fun hnext => .bind (.refl _) fun s => hnext s.frames) rfl rfl fun _ => rfl

theorem accords_treeOf (source : String) (v : Value) :
    Accords (treeOf below source v) (treeOf below' source v) :=
  Accords.tolerance.treeOf h.congruent source v

theorem Loader.accords_find (name : String) (l : Loader) :
    Accords (l.find below name) (l.find below' name) :=
  Accords.tolerance.find h.congruent name l fun _ _ => .refl _

end

/-! ## Loading -/

/-- **A way to store trees that accords with another one.** -/
def Storing.Accords (store store' : Storing) : Prop :=
  ∀ d key tree, Mustache.Accords (store d key tree) (store' d key tree)

section

variable {store store' : Storing} (hstore : store.Accords store') {below below' : Below}
  (h : below.Accords below')

include h

theorem Cache.accords_load (c : Cache) (key : String) :
    Accords (c.load below key) (c.load below' key) := by
  cases c with
  | custom v => exact Value.accords_callMember h v _ _
  | _ => exact .refl _

include hstore

theorem Cache.accords_dumpBy (c : Cache) (key : String) (tree : Tree) :
    Accords (c.dumpBy store below key tree) (c.dumpBy store' below' key tree) := by
  cases c with
  | directory d => exact .bind (hstore d key tree) fun _ => .refl _
  | custom v => exact .bind (Value.accords_callMember h v _ _) fun _ => .refl _
  | _ => exact .refl _

theorem accords_cachedTreeBy (e : Engine) (cache : Cache) (source : Value) (className : String)
    (name : Value) : Accords (cachedTreeBy store below e cache source className name)
      (cachedTreeBy store' below' e cache source className name) := by
  refine .bind (Cache.accords_load h cache className) fun v => ?_
  cases v with
  | null =>
    exact .bind (.refl _) fun _ => .bind (.refl _) fun tree =>
      .bind (Cache.accords_dumpBy hstore h cache className tree) fun _ => .refl _
  | _ => exact .refl _

theorem accords_treeForBy (e : Engine) (source : Value) (className : String) (name : Value) :
    Accords (treeForBy store below e source className name)
      (treeForBy store' below' e source className name) := by
  unfold treeForBy
  cases e.cache with
  | disabled => exact .refl _
  | _ => exact accords_cachedTreeBy hstore h e _ source className name

theorem accords_templateForBy (e : Engine) (source : Value) (text key : String) (name : Value) :
    Accords (templateForBy store below e source text key name)
      (templateForBy store' below' e source text key name) := by
  unfold templateForBy
  cases e.templates.lookup key with
  | some t => exact .refl _
  | none =>
    refine .bind (accords_treeForBy hstore h e source key name) fun found => ?_
    refine .bind ?_ fun _ => .refl _
    exact .bind (.refl _) fun _ => .bind (accords_treeOf h text found) fun _ => .refl _

theorem accords_loadSourceBy (source name : Value) :
    Accords (loadSourceBy store below source name) (loadSourceBy store' below' source name) :=
  .bind (.refl _) fun e => .bind (.refl _) fun text => .bind (.refl _) fun key =>
    accords_templateForBy hstore h e source text key name

theorem accords_loadTemplateBy (name : String) :
    Accords (loadTemplateBy store below name) (loadTemplateBy store' below' name) :=
  .bind (.refl _) fun e => .bind (Loader.accords_find h name e.loader) fun found =>
    .bind (.refl _) fun known => accords_loadSourceBy hstore h found.source known

theorem accords_loadPartialBy? (name : String) :
    Accords (loadPartialBy? store below name) (loadPartialBy? store' below' name) := by
  refine .bind (.refl _) fun e =>
    .bind (.attempt _ (Loader.accords_find h name e.partialsLoader)) fun found => ?_
  cases found with
  | none => exact .refl _
  | some found =>
    exact .bind (.refl _) fun known =>
      .bind (accords_loadSourceBy hstore h found.source known) fun _ => .refl _

end

end Mustache
