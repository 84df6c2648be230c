import Mustache.Proofs.Session.Twin

/-!
# Calls in twin sessions

Callables see the frames, count calls, and have text rendered. So in twin sessions they do the
same, provided that the text of a lambda is loaded alike in both, and that what lies a level deeper
does the same. The same is shown for what may have callables answer: the look-up of names, trees
that objects describe, and loaders.

## Main definitions

* `Mustache.Below.Agrees` — whatever is asked of the next level ends alike in twin sessions.

## Main results

* `Mustache.Agrees.tolerance` — a relation that calls respect.
* `Mustache.Callable.agrees_invoke`, `Mustache.Value.agrees_call` — calls.
* `Mustache.agrees_findFiltered` — names.
* `Mustache.agrees_treeOf` — trees that objects describe.
* `Mustache.Loader.agrees_find` — loaders.
-/

namespace Mustache

variable {H : Store → Store → Prop} {known : String → Prop}

/-! ## The session -/

theorem agrees_freshId : Agrees H known Eq freshId freshId :=
  .modifyGet keeps_freshId fun _ _ h =>
    ⟨h.nextId.symm, h.frames, h.tallies, congrArg (· + 1) h.nextId, h.store⟩

theorem agrees_countUp (id : Nat) : Agrees H known Eq (countUp id) (countUp id) := by
  refine .modifyGet (keeps_countUp id) fun s s' h => ?_
  dsimp only
  rw [h.tallies]
  exact ⟨rfl, h.frames, rfl, h.nextId, h.store⟩

/-- Traces of calls do not show. -/
theorem agrees_trace (args : List Value) :
    Agrees H known Eq (modify fun s : Session => { s with calls := args :: s.calls })
      (modify fun s : Session => { s with calls := args :: s.calls }) :=
  .modifyGet (fun _ => ⟨rfl, rfl, List.Subset.refl _, fun _ => Nat.le_refl _⟩) fun _ _ h =>
    ⟨rfl, h.frames, h.tallies, h.nextId, h.store⟩

/-! ## Calls -/

/-- Whatever is asked of the next level ends alike in twin sessions. -/
structure Below.Agrees (H : Store → Store → Prop) (known : String → Prop) (below : Below) :
    Prop where
  render : ∀ {t t'}, t.Twin t' → Mustache.Agrees H known Eq (below.render t) (below.render t')
  call : ∀ f self args,
    Mustache.Agrees H known Eq (below.call f self args) (below.call f self args)

theorem Below.Agrees.keeps {below : Below} (h : below.Agrees H known) : below.Keeps :=
  ⟨fun t => (h.render (.refl t)).keeps, fun f self args => (h.call f self args).keeps⟩

/-- **To end alike in twin sessions is a relation that calls respect.** -/
theorem Agrees.congruence : Congruence Fault.SameSort Eq fun Q => Agrees H known Q where
  toOperable := Value.operable_eq .refl
  pure _ _ _ hab := .pure hab
  throw he := .throw he
  bind hR _ _ _ _ h hnext := by
    obtain rfl := hR.eq_eq
    exact .bind h fun a => hnext a a rfl
  freshId := by
    rw [Value.numbersAlike_eq_eq]
    exact agrees_freshId
  countUp hid := by
    rw [Value.numbersAlike_eq_eq] at hid
    exact hid ▸ agrees_countUp _
  trace hargs := by
    rw [List.forall₂_eq_eq_eq] at hargs
    exact hargs ▸ agrees_trace _

/-- It also bears expected faults. -/
theorem Agrees.tolerance : Tolerance Fault.SameSort Eq fun Q => Agrees H known Q :=
  .of_same Agrees.congruence fun x _ _ h => .attempt x h

/-- The text of a lambda is loaded alike in twin sessions. -/
def AgreesOnTexts (H : Store → Store → Prop) (known : String → Prop) : Prop :=
  ∀ text delims, Agrees H known Template.Twin (loadText text delims) (loadText text delims)

section

variable {below : Below} (h : below.Agrees H known) (htexts : AgreesOnTexts H known)

include h htexts

/-- A text is loaded, and what is loaded is rendered. -/
theorem agrees_load_render (text : String) (delims : Option String) :
    Agrees H known Eq (loadText text delims >>= below.render)
      (loadText text delims >>= below.render) :=
  .bindOn (htexts _ _) h.keeps.render fun _ _ => h.render

theorem agrees_renderText (text : Value) (delims : Option String) :
    Agrees H known Eq (renderText below text delims) (renderText below text delims) :=
  .bind (.liftFault _) fun _ => agrees_load_render h htexts _ _

theorem Below.Agrees.congruent :
    below.Congruent Eq (fun Q => Mustache.Agrees H known Q) Eq below :=
  Agrees.tolerance.congruent h.call (agrees_renderText h htexts)

theorem Callable.agrees_invoke (f : Callable) (self : Option Object) (args : List Value) :
    Agrees H known Eq (f.invoke below self args) (f.invoke below self args) :=
  Agrees.tolerance.invoke (h.congruent htexts) rfl f self

namespace Value

theorem agrees_call (v : Value) (args : List Value) :
    Agrees H known Eq (v.call below args) (v.call below args) :=
  Agrees.tolerance.call (h.congruent htexts) rfl v

theorem agrees_callLambda (v : Value) (args : List Value) :
    Agrees H known Eq (v.callLambda below args) (v.callLambda below args) :=
  Agrees.tolerance.callLambda (h.congruent htexts) (fun _ => rfl) v

theorem agrees_member (v : Value) (name : String) :
    Agrees H known Eq (v.member below name) (v.member below name) :=
  Agrees.tolerance.member (h.congruent htexts) v name

theorem agrees_member? (v : Value) (name : String) :
    Agrees H known Eq (v.member? below name) (v.member? below name) :=
  Agrees.tolerance.member? (h.congruent htexts) v name

theorem agrees_callMember (v : Value) (name : String) (args : List Value) :
    Agrees H known Eq (v.callMember below name args) (v.callMember below name args) :=
  Agrees.tolerance.callMember (h.congruent htexts) rfl v name

end Value

end

/-! ## Names -/

/-- A text and null can be put into words with a line behind them. -/
theorem Unrenderable.ofPlace?_location? {e : Unrenderable} (h : e.templateName.IsName) :
    Fault.ofPlace? e.location? = none := by
  obtain ⟨text, htext⟩ : ∃ text, mentionedAs e.templateName = .text text := by
    unfold mentionedAs
    generalize e.templateName = name at h
    cases name <;> first | exact h.elim | skip
    · exact ⟨_, rfl⟩
    · split <;> exact ⟨_, rfl⟩
  unfold Unrenderable.location?
  rw [htext]
  cases e.knownLine? <;> rfl

/-- What cannot be rendered is the same for twins, but for the name of the template. -/
theorem Fault.sameSort_unrenderable {e : Unrenderable} {name : Value}
    (hname : name = e.templateName ∨ e.templateName.IsName ∧ name.IsName) :
    (Fault.unrenderable e).SameSort (Fault.unrenderable { e with templateName := name }) := by
  rcases hname with rfl | ⟨hname, hname'⟩
  · exact .refl _
  · unfold Fault.unrenderable
    rw [Unrenderable.ofPlace?_location? hname, Unrenderable.ofPlace?_location? hname']
    dsimp only
    split
    · exact .refl _
    · exact .unrenderable e name

section

variable {below : Below} (h : below.Agrees H known) (htexts : AgreesOnTexts H known)

include h htexts

theorem agrees_findFiltered {t t' : Template} (ht : t.Twin t') (name : String)
    (filters : List String) (place : Place) :
    Agrees H known Eq (findFiltered below ⟨name, filters, place, t.name, t.source⟩)
      (findFiltered below ⟨name, filters, place, t'.name, t'.source⟩) := by
  refine Agrees.tolerance.findFiltered (h.congruent htexts) (.getFrames _ _) rfl rfl
    fun filter => ?_
  rw [ht.source]
  exact Fault.sameSort_unrenderable ht.name

/-! ## Trees that objects describe, and loaders -/

theorem agrees_treeOf (source : String) (v : Value) :
    Agrees H known Eq (treeOf below source v) (treeOf below source v) :=
  Agrees.tolerance.treeOf (h.congruent htexts) source v

/-- **A loader finds the same in twin sessions** if its file searches do. -/
theorem Loader.agrees_find (name : String) (l : Loader)
    (hfiles : ∀ a b, H a b → ∀ search ∈ l.searches,
      search.find b.files name = search.find a.files name) :
    Agrees H known Eq (l.find below name) (l.find below name) := by
  refine Agrees.tolerance.find (h.congruent htexts) name l fun search hsearch => ?_
  refine ⟨.bind .get fun _ => .liftFault _, fun s s' htwin _ => ?_⟩
  show SameOutcome H Eq (liftFault (search.find s.files name) s)
    (liftFault (search.find s'.files name) s')
  have hsame : search.find s'.files name = search.find s.files name :=
    hfiles s.store s'.store htwin.store search hsearch
  rw [hsame]
  cases search.find s.files name with
  | ok found => exact .ok rfl htwin
  | error e => exact .error (.refl e) htwin

end

end Mustache
