import Mathlib.Tactic.Common
import Mustache.Proofs.Delimiters
import Mustache.Proofs.Text.Fields
import Mustache.Proofs.Text.Line

/-!
# Counted lines and shown lines

Lines are counted by the newline character alone, but a line that is shown ends at any line break.
Up to the end of some line the two notions agree if there is no break but newlines, with or without
a carriage return in front; the carriage return is not shown.

## Main definitions

* `Mustache.Text.withoutReturn` — a line without a carriage return at its end.
* `Mustache.Text.BreaksPlainly` — texts whose first lines have no other breaks.

## Main results

* `Mustache.Text.getElem?_shownLinesFrom` — a counted line is shown under its number.
* `Mustache.Text.getElem?_fields_append` — the counted line at the end of a part of a text.
-/

namespace Mustache.Text

/-! ## Breaks -/

/-- A line without a carriage return at its end. -/
def withoutReturn (line : List Char) : List Char :=
  if line.getLast? = some '\r' then line.dropLast else line

/-- The first `n` lines have no line break but the newlines behind them, in front of which there may
be a carriage return. -/
def BreaksPlainly (n : Nat) (cs : List Char) : Prop :=
  ∀ line ∈ (fields '\n' cs).take n, ∀ c ∈ withoutReturn line, isBreak c = false

theorem withoutReturn_cons {c : Char} {line : List Char} (h : c :: line ≠ ['\r']) :
    withoutReturn (c :: line) = c :: withoutReturn line := by
  cases line with
  | nil =>
    have hc : c ≠ '\r' := by simpa using h
    simp [withoutReturn, hc]
  | cons d line =>
    simp only [withoutReturn, List.getLast?_cons_cons, List.dropLast_cons_cons]
    split <;> rfl

/-- Only the end of a line is looked at. -/
theorem withoutReturn_append (cs : List Char) {more : List Char} (h : more ≠ []) :
    withoutReturn (cs ++ more) = cs ++ withoutReturn more := by
  simp only [withoutReturn, List.getLast?_append_of_ne_nil cs h,
    List.dropLast_append_of_ne_nil h]
  split <;> rfl

/-- What does not end with a carriage return stays as a part. -/
theorem exists_withoutReturn_append {cs : List Char} (hcs : cs.getLast? ≠ some '\r')
    (more : List Char) : ∃ rest, withoutReturn (cs ++ more) = cs ++ rest := by
  by_cases hmore : more = []
  · exact ⟨[], by rw [hmore, List.append_nil, withoutReturn, if_neg hcs]⟩
  · exact ⟨_, withoutReturn_append cs hmore⟩

/-! ## Lines that are shown -/

theorem shownLinesFrom_cons {c : Char} (hc : isBreak c = false) (current cs : List Char) :
    shownLinesFrom current (c :: cs) = shownLinesFrom (c :: current) cs := by
  have hne : c ≠ '\r' := by
    rintro rfl
    simp [isBreak] at hc
  rw [shownLinesFrom, hc, if_neg Bool.false_ne_true]
  exact fun _ h _ => hne h

/-- A line is shown behind what has been read of it before. -/
theorem shownLinesFrom_append_newline {line : List Char}
    (hplain : ∀ c ∈ withoutReturn line, isBreak c = false) (current rest : List Char) :
    shownLinesFrom current (line ++ '\n' :: rest) =
      (current.reverse ++ withoutReturn line) :: shownLinesFrom [] rest := by
  induction line generalizing current with
  | nil => simp [shownLinesFrom, withoutReturn, isBreak]
  | cons c line ih =>
    by_cases hreturn : c :: line = ['\r']
    · simp [hreturn, shownLinesFrom, withoutReturn]
    · rw [withoutReturn_cons hreturn, List.forall_mem_cons] at hplain
      rw [List.cons_append, shownLinesFrom_cons hplain.1, ih hplain.2,
        withoutReturn_cons hreturn, List.reverse_cons, List.append_assoc, List.singleton_append]

/-- The last line is shown if there is anything in it. -/
theorem shownLinesFrom_last {line : List Char}
    (hplain : ∀ c ∈ withoutReturn line, isBreak c = false) (current : List Char)
    (hne : current ≠ [] ∨ line ≠ []) :
    shownLinesFrom current line = [current.reverse ++ withoutReturn line] := by
  induction line generalizing current with
  | nil =>
    have hcurrent : current ≠ [] := hne.resolve_right fun h => h rfl
    simp [shownLinesFrom, withoutReturn, hcurrent]
  | cons c line ih =>
    by_cases hreturn : c :: line = ['\r']
    · simp [hreturn, shownLinesFrom, withoutReturn, isBreak]
    · rw [withoutReturn_cons hreturn, List.forall_mem_cons] at hplain
      rw [shownLinesFrom_cons hplain.1, ih hplain.2 _ (.inl (by simp)),
        withoutReturn_cons hreturn, List.reverse_cons, List.append_assoc, List.singleton_append]

/-! ## Lines that are counted -/

/-- **A counted line is shown under its number**, if there is anything in it and the lines up to it
have no other breaks. -/
theorem getElem?_shownLinesFrom {cs line : List Char} {k : Nat}
    (hline : (fields '\n' cs)[k]? = some line) (hne : line ≠ [])
    (hplain : BreaksPlainly (k + 1) cs) :
    (shownLinesFrom [] cs)[k]? = some (withoutReturn line) := by
  induction k generalizing cs with
  | zero =>
    rcases fields_cases '\n' cs with hcs | ⟨field, rest, hfield, rfl⟩
    · rw [fields_of_notMem hcs, List.getElem?_cons_zero, Option.some.injEq] at hline
      subst hline
      have hshown := hplain cs (by simp [fields_of_notMem hcs])
      rw [shownLinesFrom_last hshown [] (.inr hne)]
      rfl
    · rw [fields_append_cons hfield, List.getElem?_cons_zero, Option.some.injEq] at hline
      subst hline
      have hshown := hplain field (by simp [fields_append_cons hfield])
      rw [shownLinesFrom_append_newline hshown]
      rfl
  | succ k ih =>
    rcases fields_cases '\n' cs with hcs | ⟨field, rest, hfield, rfl⟩
    · simp [fields_of_notMem hcs] at hline
    · rw [BreaksPlainly, fields_append_cons hfield, List.take_succ_cons,
        List.forall_mem_cons] at hplain
      rw [fields_append_cons hfield, List.getElem?_cons_succ] at hline
      rw [shownLinesFrom_append_newline hplain.1, List.getElem?_cons_succ]
      exact ih hline hplain.2

theorem forall_bne_of_notMem {separator : Char} {cs : List Char} (h : separator ∉ cs) :
    ∀ c ∈ cs, (c != separator) = true := fun c hc => by
  rw [bne_iff_ne]
  exact fun heq => h (heq ▸ hc)

/-- **The counted line at the end of a part of a text**: what the part has behind its last newline,
and what follows the part up to the next newline. -/
theorem getElem?_fields_append (front rest : List Char) :
    (fields '\n' (front ++ rest))[front.count '\n']? =
      some (lastLine front ++ rest.takeWhile (· != '\n')) := by
  induction hn : front.count '\n' generalizing front with
  | zero =>
    have hfront : '\n' ∉ front := List.count_eq_zero.1 hn
    rw [lastLine_eq_self hfront, ← List.takeWhile_append_of_pos (forall_bne_of_notMem hfront)]
    rcases fields_cases '\n' (front ++ rest) with hcs | ⟨field, more, hfield, heq⟩
    · rw [fields_of_notMem hcs, List.getElem?_cons_zero,
        List.takeWhile_eq_self_iff.2 (forall_bne_of_notMem hcs)]
    · rw [heq, fields_append_cons hfield, List.getElem?_cons_zero,
        List.takeWhile_append_of_pos (forall_bne_of_notMem hfield),
        List.takeWhile_cons_of_neg (by simp), List.append_nil]
  | succ n ih =>
    rcases fields_cases '\n' front with hfront | ⟨field, front', hfield, rfl⟩
    · rw [List.count_eq_zero.2 hfront] at hn
      simp at hn
    · have hcount : front'.count '\n' = n := by
        simpa [List.count_eq_zero.2 hfield] using hn
      rw [lastLine_append_newline, List.append_assoc, List.cons_append,
        fields_append_cons hfield, List.getElem?_cons_succ]
      exact ih front' hcount

end Mustache.Text
