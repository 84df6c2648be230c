import Mathlib.Data.List.Basic
import Mustache.Text.Search

/-!
# Fields of a text

A text falls into fields at every occurrence of a separator. The fields hold no characters but those
of the text, and a text that does not hold the separator only makes the last field longer. Splitting
a text and joining its fields undo each other.

## Main results

* `Mustache.Text.mem_of_mem_fields` — the characters of the fields.
* `Mustache.Text.exists_fields_append_eq` — a text without a separator behind another one.
* `Mustache.Text.fields_induction` — induction on the fields of a text.
* `Mustache.Text.fields_intercalate`, `Mustache.Text.intercalate_fields` — splitting and joining.
-/

namespace Mustache.Text

variable {separator : Char}

/-- The fields hold no characters but those of the text. -/
theorem mem_of_mem_fields {cs field : List Char} (h : field ∈ fields separator cs) {c : Char}
    (hc : c ∈ field) : c ∈ cs := by
  induction cs generalizing field with
  | nil =>
    rw [fields, List.mem_singleton] at h
    exact absurd (h ▸ hc) List.not_mem_nil
  | cons d ds ih =>
    rw [fields] at h
    split at h
    · rcases List.mem_cons.1 h with rfl | h
      · exact absurd hc List.not_mem_nil
      · exact List.mem_cons_of_mem d (ih h hc)
    · generalize hrest : fields separator ds = rest at h ih
      cases rest with
      | nil =>
        rw [List.mem_singleton.1 h] at hc
        exact List.mem_cons.2 (.inl (List.mem_singleton.1 hc))
      | cons first others =>
        rcases List.mem_cons.1 h with rfl | h
        · rcases List.mem_cons.1 hc with rfl | hc
          · exact List.mem_cons_self
          · exact List.mem_cons_of_mem d (ih List.mem_cons_self hc)
        · exact List.mem_cons_of_mem d (ih (List.mem_cons_of_mem _ h) hc)

/-- A text without a separator is a field of its own. -/
theorem fields_of_notMem {cs : List Char} (h : separator ∉ cs) : fields separator cs = [cs] := by
  induction cs with
  | nil => rfl
  | cons c cs ih =>
    have hc : (c == separator) = false := by
      rw [beq_eq_false_iff_ne]
      rintro rfl
      exact h List.mem_cons_self
    rw [fields, hc, if_neg Bool.false_ne_true, ih fun hmem => h (List.mem_cons_of_mem c hmem)]

/-- **A text without a separator behind another one** makes the last field longer. -/
theorem exists_fields_append_eq (cs : List Char) {ds : List Char} (h : separator ∉ ds) :
    ∃ front last, fields separator (cs ++ ds) = front ++ [last ++ ds] := by
  induction cs with
  | nil => exact ⟨[], [], fields_of_notMem h⟩
  | cons c cs ih =>
    obtain ⟨front, last, hrest⟩ := ih
    rw [List.cons_append, fields, hrest]
    split
    · exact ⟨[] :: front, last, rfl⟩
    · cases front with
      | nil => exact ⟨[], c :: last, rfl⟩
      | cons first front => exact ⟨(c :: first) :: front, last, rfl⟩

/-- The first field ends at the first separator. -/
theorem fields_append_cons {cs : List Char} (h : separator ∉ cs) (rest : List Char) :
    fields separator (cs ++ separator :: rest) = cs :: fields separator rest := by
  induction cs with
  | nil => simp [fields]
  | cons c cs ih =>
    have hc : (c == separator) = false := by
      rw [beq_eq_false_iff_ne]
      rintro rfl
      exact h List.mem_cons_self
    rw [List.cons_append, fields, hc, if_neg Bool.false_ne_true,
      ih fun hmem => h (List.mem_cons_of_mem c hmem)]

/-- A text without the separator, or a field with the separator behind it. -/
theorem fields_cases (separator : Char) (cs : List Char) :
    separator ∉ cs ∨ ∃ field rest, separator ∉ field ∧ cs = field ++ separator :: rest := by
  by_cases h : separator ∈ cs
  · obtain ⟨field, rest, heq, hfield⟩ := List.eq_append_cons_of_mem h
    exact .inr ⟨field, rest, hfield, heq⟩
  · exact .inl h

/-- **Induction on the fields of a text**: it is the last field, or a field with the separator and
a text behind it. -/
@[elab_as_elim]
theorem fields_induction (separator : Char) {motive : List Char → Prop}
    (last : ∀ field, separator ∉ field → motive field)
    (next : ∀ field rest, separator ∉ field → motive rest → motive (field ++ separator :: rest))
    (cs : List Char) : motive cs := by
  induction hn : cs.length using Nat.strongRecOn generalizing cs with
  | ind n ih =>
    rcases fields_cases separator cs with hcs | ⟨field, rest, hfield, rfl⟩
    · exact last cs hcs
    · have hlt : rest.length < n := by
        rw [← hn, List.length_append, List.length_cons]
        omega
      exact next field rest hfield (ih rest.length hlt rest rfl)

/-- There is always a field, if only an empty one. -/
theorem fields_ne_nil (separator : Char) (cs : List Char) : fields separator cs ≠ [] := by
  rcases fields_cases separator cs with hcs | ⟨field, rest, hfield, rfl⟩
  · simp [fields_of_notMem hcs]
  · simp [fields_append_cons hfield]

/-! ## Splitting and joining -/

/-- Fields that do not hold the separator are told from the text that they make. -/
theorem fields_intercalate {css : List (List Char)} (hne : css ≠ [])
    (h : ∀ cs ∈ css, separator ∉ cs) : fields separator ([separator].intercalate css) = css := by
  induction css with
  | nil => exact absurd rfl hne
  | cons cs css ih =>
    rw [List.forall_mem_cons] at h
    cases css with
    | nil =>
      rw [List.intercalate_singleton]
      exact fields_of_notMem h.1
    | cons ds css =>
      rw [List.intercalate_cons_cons, List.append_assoc, List.singleton_append,
        fields_append_cons h.1, ih (by simp) h.2]

/-- **The fields of a text make up the text**, with the separator between them. -/
theorem intercalate_fields (separator : Char) (cs : List Char) :
    [separator].intercalate (fields separator cs) = cs := by
  induction cs using fields_induction separator with
  | last field h => rw [fields_of_notMem h, List.intercalate_singleton]
  | next field rest h ih =>
    obtain ⟨first, others, hrest⟩ := List.exists_cons_of_ne_nil (fields_ne_nil separator rest)
    rw [fields_append_cons h, hrest, List.intercalate_cons_cons, ← hrest, ih, List.append_assoc,
      List.singleton_append]

end Mustache.Text
