import Mustache.Proofs.Session.Twin

/-!
# Values that differ in their numbers

What is made anew in a session, be it a function, an object, a floating-point number or the means to
render text, is told from everything else by a number. Which number this is depends on what has been
made before, and nothing that templates or callables do with a value tells it.

## Main definitions

* `Mustache.Fault.ExpectedAlike` — faults that are expected alike.
* `Mustache.Value.Renumbered` — values that differ in the numbers of what has been made.

## Main results

* `Mustache.Value.operable_renumbered` — operations respect the relation.
* `Mustache.Value.Renumbered.write` — a template writes the same for such values.
-/

namespace Mustache

/-! ## Faults -/

/-- **Faults that are expected alike**, whatever is expected. -/
def Fault.ExpectedAlike (e e' : Fault) : Prop := ∀ x : Expected, x.covers e' = x.covers e

namespace Fault

theorem ExpectedAlike.refl (e : Fault) : e.ExpectedAlike e := fun _ => rfl

theorem ExpectedAlike.trans {e e' e'' : Fault} (h : e.ExpectedAlike e')
    (h' : e'.ExpectedAlike e'') : e.ExpectedAlike e'' :=
  fun x => (h' x).trans (h x)

theorem SameSort.expectedAlike {e e' : Fault} (h : e.SameSort e') : e.ExpectedAlike e' := h.covers

/-- What cannot be rendered is expected alike if the values can be written, or cannot. -/
theorem expectedAlike_unrenderable {u : Unrenderable} {values : List (String × Value)}
    (hvalues : (values.any fun entry => entry.2.isUnwritable) =
      u.values.any fun entry => entry.2.isUnwritable) :
    (Fault.unrenderable u).ExpectedAlike (Fault.unrenderable { u with values }) := by
  have hplace : Unrenderable.location? { u with values } = u.location? := rfl
  unfold Fault.unrenderable
  rw [hplace]
  dsimp only
  rw [hvalues]
  split
  · exact .refl _
  · split
    · exact .refl _
    · exact fun x => by cases x <;> rfl

end Fault

/-! ## Values -/

namespace Value

/-- **Values that differ in the numbers of what has been made**, at any depth of lists and
tuples. -/
inductive Renumbered : Value → Value → Prop
  | refl (v : Value) : Renumbered v v
  | float (x : Float) (id id' : Nat) : Renumbered (.float x id) (.float x id')
  | function (f : Callable) (id : Nat) : Renumbered (.function f) (.function { f with id })
  | plain (name : String) (id id' : Nat) : Renumbered (plainObject id name) (plainObject id' name)
  | helper (depth : Nat) (delims : Option String) (id id' : Nat) :
    Renumbered (.helper id depth delims) (.helper id' depth delims)
  | list {vs ws : List Value} (items : List.Forall₂ Renumbered vs ws) :
    Renumbered (.list vs) (.list ws)
  | tuple {vs ws : List Value} (items : List.Forall₂ Renumbered vs ws) :
    Renumbered (.tuple vs) (.tuple ws)

/-- No two numbers are told apart. -/
theorem numbersAlike_renumbered (id id' : Nat) : NumbersAlike Renumbered id id' :=
  ⟨fun x => .float x id id', fun f => .function { f with id } id', fun name => .plain name id id',
    fun depth delims => .helper depth delims id id'⟩

end Value

/-! ## Operations -/

/-- **Operations respect** that values differ in numbers only. -/
theorem Value.operable_renumbered : Operable Fault.ExpectedAlike Renumbered where
  sameFault := .refl
  refl := .refl
  shape h := by
    cases h with
    | refl => exact .same _
    | float x id id' => exact .float x id id'
    | function f id => exact .function rfl
    | plain name id id' => exact .object rfl rfl rfl
    | helper depth delims id id' => exact .helper depth delims id id'
    | list items => exact .list items
    | tuple items => exact .tuple items
  list := .list
  tuple := .tuple

namespace Value.Renumbered

variable {v w : Value}

theorem isUnwritable_eq (h : v.Renumbered w) : w.isUnwritable = v.isUnwritable :=
  (Value.shown_eq_of_shape operable_renumbered.shape v h).2

/-- **A template writes the same** for such values. -/
theorem write (h : v.Renumbered w) (o : Occasion) :
    ResultRel Fault.ExpectedAlike Eq (v.write o) (w.write o) := by
  refine operable_renumbered.write h o ?_
  rw [(operable_renumbered.shape h).unprintable_eq]
  refine Fault.expectedAlike_unrenderable ?_
  show ([("value", w)].any fun entry => entry.2.isUnwritable) =
    [("value", v)].any fun entry => entry.2.isUnwritable
  simp only [List.any_cons, List.any_nil, h.isUnwritable_eq]

end Value.Renumbered

end Mustache
