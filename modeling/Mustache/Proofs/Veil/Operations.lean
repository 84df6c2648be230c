import Mustache.Proofs.Session.Congruence
import Mustache.Proofs.Veil.Values

/-!
# Operations on values that differ behind the veil

Whatever callables compute with does not lift the veil, and neither does a template that writes a
value: both see what is in front of it only.

## Main results

* `Mustache.Value.Veiled.write` — the text that a template writes.
* `Mustache.Value.operable_veiled` — whatever callables compute with.
-/

namespace Mustache

/-! ## Faults -/

/-- What cannot be rendered is told alike if the values involved are shown alike. -/
theorem Fault.alike_unrenderable {u : Unrenderable} {name : String} {v w : Value}
    (h : v.Veiled w) (hvalues : u.values = [(name, v)]) :
    (Fault.unrenderable u).Alike (Fault.unrenderable { u with values := [(name, w)] }) := by
  have hshown : [(name, w)].map Unrenderable.valueLine = u.values.map Unrenderable.valueLine := by
    simp only [hvalues, List.map_cons, List.map_nil, Unrenderable.valueLine, h.quoted_eq,
      h.shape.typeName_eq]
  have hunwritable : ([(name, w)].any fun entry => entry.2.isUnwritable) =
      u.values.any fun entry => entry.2.isUnwritable := by
    simp only [hvalues, List.any_cons, List.any_nil, h.isUnwritable_eq]
  have hplace : Unrenderable.location? { u with values := [(name, w)] } = u.location? := rfl
  unfold Fault.unrenderable
  rw [hplace]
  dsimp only
  rw [hunwritable]
  split
  · exact .refl _
  · split
    · exact .refl _
    · exact .unrenderable hshown

namespace Value

/-- **Whatever callables compute with does not lift the veil.** -/
theorem operable_veiled : Operable Fault.Alike Veiled where
  sameFault := .refl
  refl := .refl
  shape := Veiled.shape
  list h := (Step.list h).veiled
  tuple h := (Step.tuple h).veiled

namespace Veiled

variable {v w : Value}

/-- **The text that a template writes** is the same. -/
theorem write (h : v.Veiled w) (o : Occasion) :
    ResultRel Fault.Alike Eq (v.write o) (w.write o) := by
  refine operable_veiled.write h o ?_
  rw [h.shape.unprintable_eq]
  exact Fault.alike_unrenderable h rfl

/-- Numbers that tell values apart behind the veil are the same. -/
theorem numbersAlike_iff {id id' : Nat} : NumbersAlike Veiled id id' ↔ id = id' := by
  refine ⟨fun h => ?_, fun h => h ▸ .refl refl id⟩
  exact (Value.helper.inj ((h.helper 0 none).eq_of_isSimple rfl)).1.symm

end Veiled

end Value

end Mustache
