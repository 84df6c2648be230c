import Mathlib.Data.List.Infix
import Mathlib.Tactic.Common
import Mustache.Text.Search

/-!
# Occurrences of a pattern

Searching a text from the left finds the first occurrence of a pattern. This module says what an
occurrence is without searching, and describes `Mustache.Text.cut?` in these terms.

## Main definitions

* `Mustache.Text.slice` — the characters of a text from one offset up to another.
* `Mustache.Text.OccursAt` — a pattern stands at an offset of a text.

## Main results

* `Mustache.Text.cut?_eq_some_iff`, `Mustache.Text.cut?_eq_none_iff` — a cut is made at the first
  occurrence, and there is none only if nothing occurs.
* `Mustache.Text.cut?_append`, `Mustache.Text.cut?_append_of_eq_none` — the cut of a text that has
  been continued.
-/

namespace Mustache.Text

variable {pattern text before after : List Char}

/-- The characters of a text from one offset up to another. -/
def slice (text : List Char) (start stop : Nat) : List Char := (text.take stop).drop start

/-- The slice of a text whose parts are known. -/
theorem slice_eq_of_drop {text mid rest : List Char} {start stop : Nat}
    (h : text.drop start = mid ++ rest) (hstop : stop = start + mid.length) :
    slice text start stop = mid := by
  rw [slice, List.drop_take, h, hstop, Nat.add_sub_cancel_left, List.take_left]

/-- A text goes on behind a slice of it. -/
theorem drop_eq_slice_append (text : List Char) {start stop : Nat} (h : start ≤ stop) :
    text.drop start = slice text start stop ++ text.drop stop := by
  rw [slice, List.drop_take, show text.drop stop = (text.drop start).drop (stop - start) by
    rw [List.drop_drop, Nat.add_sub_cancel' h], List.take_append_drop]

/-- The length of a slice that lies within the text. -/
theorem length_slice {text : List Char} {start stop : Nat} (hstop : stop ≤ text.length) :
    (slice text start stop).length = stop - start := by
  rw [slice, List.length_drop, List.length_take, Nat.min_eq_left hstop]

/-- A character of a slice is a character of the text. -/
theorem mem_slice_iff {text : List Char} {start stop : Nat} {c : Char} :
    c ∈ slice text start stop ↔ ∃ i, start ≤ i ∧ i < stop ∧ text[i]? = some c := by
  unfold slice
  rw [List.mem_iff_getElem?]
  constructor
  · rintro ⟨j, hj⟩
    rw [List.getElem?_drop, List.getElem?_take] at hj
    split at hj
    · next hlt => exact ⟨start + j, Nat.le_add_right _ _, hlt, hj⟩
    · simp at hj
  · rintro ⟨i, hle, hlt, hi⟩
    refine ⟨i - start, ?_⟩
    rw [List.getElem?_drop, List.getElem?_take, Nat.add_sub_cancel' hle, if_pos hlt, hi]

/-- The pattern stands at offset `i` of the text. -/
def OccursAt (pattern text : List Char) (i : Nat) : Prop := pattern <+: text.drop i

/-- An offset in what follows an offset. -/
theorem occursAt_drop {k i : Nat} :
    OccursAt pattern (text.drop k) i ↔ OccursAt pattern text (k + i) := by
  simp only [OccursAt, List.drop_drop]

/-- A pattern at the start of a text is what the text begins with. -/
theorem occursAt_zero : OccursAt pattern text 0 ↔ ∃ rest, text = pattern ++ rest := by
  simp only [OccursAt, List.drop_zero, List.IsPrefix]
  exact ⟨fun ⟨r, h⟩ => ⟨r, h.symm⟩, fun ⟨r, h⟩ => ⟨r, h.symm⟩⟩

/-- A text that goes on behind no pattern does not begin with it. -/
theorem not_occursAt_zero (h : behind? pattern text = none) : ¬ OccursAt pattern text 0 := by
  rw [occursAt_zero]
  rintro ⟨rest, hrest⟩
  rw [behind?_eq_some_iff.2 hrest] at h
  simp at h

/-- Offsets behind the first character. -/
theorem occursAt_cons_succ {c : Char} {i : Nat} :
    OccursAt pattern (c :: text) (i + 1) ↔ OccursAt pattern text i := by
  simp only [OccursAt, List.drop_succ_cons]

/-- An occurrence lies within the text. -/
theorem OccursAt.add_length_le {i : Nat} (h : OccursAt pattern text i) (hp : pattern ≠ []) :
    i + pattern.length ≤ text.length := by
  have hlen := h.length_le
  rw [List.length_drop] at hlen
  have := List.length_pos_iff.2 hp
  omega

/-- An occurrence that ends within the first part of a text is one in that part. -/
theorem OccursAt.of_append {i : Nat} {more : List Char} (h : OccursAt pattern (text ++ more) i)
    (hi : i + pattern.length ≤ text.length) : OccursAt pattern text i := by
  unfold OccursAt at h ⊢
  rw [List.drop_append_of_le_length (by omega)] at h
  exact List.prefix_of_prefix_length_le h (List.prefix_append _ _)
    (by rw [List.length_drop]; omega)

/-- An occurrence stays one when the text goes on. -/
theorem OccursAt.append {i : Nat} (h : OccursAt pattern text i) (more : List Char) :
    OccursAt pattern (text ++ more) i := by
  unfold OccursAt at h ⊢
  rw [List.drop_append]
  exact h.trans (List.prefix_append _ _)

/-- The characters of an occurrence are those of the pattern. -/
theorem OccursAt.mem_of_lt {i j : Nat} (h : OccursAt pattern text i) (hij : i ≤ j)
    (hj : j < i + pattern.length) : ∃ c ∈ pattern, text[j]? = some c := by
  obtain ⟨rest, hrest⟩ := h
  have hlt : j - i < pattern.length := by omega
  refine ⟨pattern[j - i], List.getElem_mem hlt, ?_⟩
  have hget : (text.drop i)[j - i]? = text[j]? := by
    rw [List.getElem?_drop]
    congr 1
    omega
  rw [← hget, ← hrest, List.getElem?_append_left hlt, List.getElem?_eq_getElem hlt]

/-! ## Cutting at the first occurrence -/

/-- **A cut is made at the first occurrence.**

**Proof sketch.** Induction on the text. At the start of the text an occurrence is decided by
`behind?`; behind the first character the induction hypothesis applies. -/
theorem cut?_eq_some_iff : cut? pattern text = some (before, after) ↔
    text = before ++ pattern ++ after ∧ ∀ i < before.length, ¬ OccursAt pattern text i := by
  induction text generalizing before with
  | nil =>
    simp only [cut?, List.isEmpty_iff]
    constructor
    · intro h
      split at h <;> simp_all
    · rintro ⟨h, -⟩
      simp_all
  | cons c cs ih =>
    rw [cut?]
    cases hb : behind? pattern (c :: cs) with
    | some rest =>
      have hpre := behind?_eq_some_iff.1 hb
      constructor
      · intro h
        simp only [Option.some.injEq, Prod.mk.injEq] at h
        obtain ⟨rfl, rfl⟩ := h
        exact ⟨by simpa using hpre, by simp⟩
      · rintro ⟨heq, hfirst⟩
        cases before with
        | nil =>
          rw [hpre, List.nil_append, List.append_cancel_left_eq] at heq
          rw [heq]
        | cons b bs => exact absurd (occursAt_zero.2 ⟨rest, hpre⟩) (hfirst 0 (by simp))
    | none =>
      have hpre := not_occursAt_zero hb
      constructor
      · intro h
        obtain ⟨⟨bs, as⟩, hcut, heq⟩ := Option.map_eq_some_iff.1 h
        simp only [Prod.mk.injEq] at heq
        obtain ⟨rfl, rfl⟩ := heq
        obtain ⟨h1, h2⟩ := ih.1 hcut
        refine ⟨by simp [h1], fun i hi => ?_⟩
        cases i with
        | zero => exact hpre
        | succ i =>
          rw [occursAt_cons_succ]
          exact h2 i (by simpa using hi)
      · rintro ⟨heq, hfirst⟩
        cases before with
        | nil => exact absurd (occursAt_zero.2 ⟨after, by simpa using heq⟩) hpre
        | cons b bs =>
          simp only [List.cons_append, List.cons.injEq] at heq
          obtain ⟨rfl, heq⟩ := heq
          have hcut : cut? pattern cs = some (bs, after) := by
            refine ih.2 ⟨by simpa using heq, fun i hi => ?_⟩
            rw [← occursAt_cons_succ (c := c)]
            exact hfirst (i + 1) (by simpa using hi)
          simp [hcut]

/-- There is no cut only if the pattern does not occur. -/
theorem cut?_eq_none_iff : cut? pattern text = none ↔ ∀ i, ¬ OccursAt pattern text i := by
  induction text with
  | nil =>
    cases pattern with
    | nil => simp [cut?, OccursAt]
    | cons p ps => simp [cut?, OccursAt]
  | cons c cs ih =>
    rw [cut?]
    cases hb : behind? pattern (c :: cs) with
    | some rest =>
      simp only [reduceCtorEq, false_iff, not_forall, not_not]
      exact ⟨0, occursAt_zero.2 ⟨rest, behind?_eq_some_iff.1 hb⟩⟩
    | none =>
      simp only [Option.map_eq_none_iff, ih]
      constructor
      · intro h i
        cases i with
        | zero => exact not_occursAt_zero hb
        | succ i =>
          rw [occursAt_cons_succ]
          exact h i
      · intro h i
        rw [← occursAt_cons_succ (c := c)]
        exact h (i + 1)

/-! ## Texts that go on -/

/-- A cut stays where it is when the text goes on. -/
theorem cut?_append (h : cut? pattern text = some (before, after)) (more : List Char) :
    cut? pattern (text ++ more) = some (before, after ++ more) := by
  obtain ⟨heq, hfirst⟩ := cut?_eq_some_iff.1 h
  have hlen : text.length = before.length + pattern.length + after.length :=
    length_of_cut?_eq_some h
  refine cut?_eq_some_iff.2 ⟨by simp [heq], fun i hi hocc => hfirst i hi ?_⟩
  by_cases hp : pattern = []
  · subst hp
    exact List.nil_prefix
  · exact hocc.of_append (by omega)

/-- If a pattern occurs neither in a text nor across its end, it is cut in what follows. -/
theorem cut?_append_of_eq_none {c : Char} (h : cut? pattern (text ++ [c]) = none)
    (hc : c ∉ pattern) (more : List Char) :
    cut? pattern (text ++ [c] ++ more) =
      (cut? pattern more).map fun parts => (text ++ [c] ++ parts.1, parts.2) := by
  have hne : ∀ i ≤ text.length, ¬ OccursAt pattern (text ++ [c] ++ more) i := by
    intro i hi hocc
    by_cases hend : i + pattern.length ≤ (text ++ [c]).length
    · exact cut?_eq_none_iff.1 h i (hocc.of_append hend)
    · obtain ⟨d, hd, hget⟩ := hocc.mem_of_lt hi (by simp at hend; omega)
      simp only [List.append_assoc, List.singleton_append, List.getElem?_append_right, le_refl,
        Nat.sub_self, List.getElem?_cons_zero, Option.some.injEq] at hget
      exact hc (hget ▸ hd)
  have hshift : ∀ i, OccursAt pattern (text ++ [c] ++ more) (text.length + 1 + i) ↔
      OccursAt pattern more i := by
    intro i
    rw [← occursAt_drop, show text.length + 1 = (text ++ [c]).length by simp, List.drop_left]
  cases hm : cut? pattern more with
  | none =>
    rw [Option.map_none, cut?_eq_none_iff]
    intro i
    rcases Nat.lt_or_ge text.length i with hi | hi
    · obtain ⟨j, rfl⟩ : ∃ j, i = text.length + 1 + j := ⟨i - (text.length + 1), by omega⟩
      rw [hshift]
      exact cut?_eq_none_iff.1 hm j
    · exact hne i hi
  | some parts =>
    obtain ⟨first, rest⟩ := parts
    obtain ⟨heq, hfirst⟩ := cut?_eq_some_iff.1 hm
    refine cut?_eq_some_iff.2 ⟨by rw [heq]; simp, fun i hi => ?_⟩
    rcases Nat.lt_or_ge text.length i with hlt | hge
    · obtain ⟨j, rfl⟩ : ∃ j, i = text.length + 1 + j := ⟨i - (text.length + 1), by omega⟩
      rw [hshift]
      refine hfirst j ?_
      simp only [List.length_append, List.length_cons, List.length_nil] at hi
      omega
    · exact hne i hge

end Mustache.Text
