import Mathlib.Data.List.TakeWhile
import Mustache.Text.Blank
import Mustache.Text.Lines

/-!
# The last line of a text

What follows the last newline of a text is a suffix of it without newlines, and it is the whole
text if there is none.

## Main results

* `Mustache.Text.lastLine_eq_self`, `Mustache.Text.exists_eq_append_lastLine` — the last line of a
  text without and of one with a newline.
* `Mustache.Text.lastLine_append_newline` — the last line starts anew behind a newline.
-/

namespace Mustache.Text

/-- The last line of a text is at its end. -/
theorem lastLine_suffix (cs : List Char) : lastLine cs <:+ cs := by
  unfold lastLine
  rw [← List.reverse_prefix, List.reverse_reverse]
  exact List.takeWhile_prefix _

/-- There is no newline in the last line. -/
theorem newline_not_mem_lastLine (cs : List Char) : '\n' ∉ lastLine cs := by
  unfold lastLine
  intro h
  have := List.mem_takeWhile_imp (List.mem_reverse.1 h)
  simp at this

/-- Behind a newline the last line starts anew. -/
theorem lastLine_append_newline (cs ds : List Char) :
    lastLine (cs ++ '\n' :: ds) = lastLine ds := by
  unfold lastLine
  rw [List.reverse_append, List.reverse_cons, List.append_assoc, List.takeWhile_append]
  split
  · next h =>
    have htake : List.takeWhile (fun c => c != '\n') ds.reverse = ds.reverse :=
      (List.takeWhile_prefix _).eq_of_length h
    simp [htake]
  · rfl

/-- A text without a newline is its own last line. -/
theorem lastLine_eq_self {cs : List Char} (h : '\n' ∉ cs) : lastLine cs = cs := by
  unfold lastLine
  rw [List.takeWhile_eq_self_iff.2, List.reverse_reverse]
  intro c hc
  have : c ≠ '\n' := fun heq => h (heq ▸ List.mem_reverse.1 hc)
  simpa using this

/-- A text with a newline ends with a newline and its last line. -/
theorem exists_eq_append_lastLine {cs : List Char} (h : '\n' ∈ cs) :
    ∃ init, cs = init ++ '\n' :: lastLine cs := by
  induction cs with
  | nil => simp at h
  | cons c cs ih =>
    by_cases hcs : '\n' ∈ cs
    · obtain ⟨init, hinit⟩ := ih hcs
      have hlast := lastLine_append_newline (c :: init) (lastLine cs)
      rw [List.cons_append, ← hinit, lastLine_eq_self (newline_not_mem_lastLine cs)] at hlast
      refine ⟨c :: init, ?_⟩
      rw [hlast, List.cons_append, ← hinit]
    · obtain rfl : '\n' = c := (List.mem_cons.1 h).resolve_right hcs
      refine ⟨[], ?_⟩
      have hlast := lastLine_append_newline [] cs
      rw [List.nil_append] at hlast ⊢
      rw [hlast, lastLine_eq_self hcs]

/-- A newline is no blank that may stand beside a tag. -/
theorem isMargin_newline : isMargin '\n' = false := by decide

end Mustache.Text
