import Mustache.Indent
import Mustache.Proofs.Text.Fields

/-!
# Indented lines

An indent stands in front of every line of a text, an empty one included, but not behind the last
newline. Indenting acts on lines: two indents make one, a text may be indented piece by piece where
each piece ends with its line, and an indent can be taken off again.

## Main definitions

* `Mustache.outdent?` — a text without the indent in front of its lines.

## Main results

* `Mustache.fields_indentFrom` — the lines of an indented text.
* `Mustache.indentFrom_indentFrom`, `Mustache.indentFrom_append_of_ends` — two indents, and texts
  that are put together.
* `Mustache.indentLines_acts` — all of this for strings.

## Implementation notes

A text is its last line, or a line with its newline and a text behind it. The proofs go by induction
on these, so that each of them only has to know how one line is indented.
-/

namespace Mustache

variable {i line : List Char}

/-! ## One line -/

/-- An indented line is one line. -/
theorem newline_notMem_append (hi : '\n' ∉ i) (h : '\n' ∉ line) : '\n' ∉ i ++ line := by
  simp [hi, h]

/-- Within a line nothing is put in. -/
theorem indentFrom_false_append (h : '\n' ∉ line) (i rest : List Char) :
    indentFrom i false (line ++ rest) = line ++ indentFrom i false rest := by
  induction line with
  | nil => rfl
  | cons c line ih =>
    rw [List.mem_cons, not_or] at h
    have hc : (c == '\n') = false := by simpa using Ne.symm h.1
    rw [List.cons_append, indentFrom, hc, ih h.2, List.cons_append]

/-- A line that is not empty has the indent in front, whatever follows. -/
theorem indentFrom_true_append (hne : line ≠ []) (h : '\n' ∉ line) (i rest : List Char) :
    indentFrom i true (line ++ rest) = i ++ (line ++ indentFrom i false rest) := by
  obtain ⟨c, line, rfl⟩ := List.exists_cons_of_ne_nil hne
  rw [List.mem_cons, not_or] at h
  have hc : (c == '\n') = false := by simpa using Ne.symm h.1
  rw [List.cons_append, indentFrom, hc, indentFrom_false_append h.2, List.cons_append]

/-- **A line with its newline** has the indent in front, and the next line begins behind it. -/
theorem indentFrom_line (h : '\n' ∉ line) (i rest : List Char) :
    indentFrom i true (line ++ '\n' :: rest) = i ++ line ++ '\n' :: indentFrom i true rest := by
  by_cases hne : line = []
  · rw [hne, List.nil_append, indentFrom, List.append_nil]
    rfl
  · rw [indentFrom_true_append hne h, List.append_assoc]
    rfl

/-- **The last line** has the indent in front, unless there is nothing in it. -/
theorem indentFrom_last (h : '\n' ∉ line) (i : List Char) :
    indentFrom i true line = if line = [] then [] else i ++ line := by
  split
  · next hline =>
    rw [hline]
    rfl
  · next hne =>
    have hindent := indentFrom_true_append hne h i []
    rwa [List.append_nil, show indentFrom i false [] = [] from rfl, List.append_nil] at hindent

/-! ## Laws of indenting -/

/-- **Two indents make one**, with the later one in front. -/
theorem indentFrom_indentFrom (hi : '\n' ∉ i) (j cs : List Char) :
    indentFrom j true (indentFrom i true cs) = indentFrom (j ++ i) true cs := by
  induction cs using Text.fields_induction '\n' with
  | last line h =>
    rw [indentFrom_last h, indentFrom_last h]
    split
    · rfl
    · next hne =>
      rw [indentFrom_last (newline_notMem_append hi h), if_neg (by simp [hne]), List.append_assoc]
  | next line rest h ih =>
    rw [indentFrom_line h, indentFrom_line (newline_notMem_append hi h), indentFrom_line h, ih,
      ← List.append_assoc j, List.append_assoc j]

/-- **Texts that are put together are indented one by one**, if the first one ends with its line. -/
theorem indentFrom_append_of_ends {cs : List Char} (h : cs = [] ∨ cs.getLast? = some '\n')
    (i ds : List Char) :
    indentFrom i true (cs ++ ds) = indentFrom i true cs ++ indentFrom i true ds := by
  induction cs using Text.fields_induction '\n' with
  | last line hline =>
    -- A text that is only a last line has no newline to end with.
    have hempty : line = [] := h.resolve_right fun hlast => hline (List.mem_of_getLast? hlast)
    rw [hempty]
    rfl
  | next line rest hline ih =>
    have hrest : rest = [] ∨ rest.getLast? = some '\n' := by
      rcases List.eq_nil_or_concat rest with hnil | ⟨init, c, rfl⟩
      · exact .inl hnil
      · refine .inr (h.elim (by simp) fun hlast => ?_)
        rw [List.concat_eq_append, ← List.cons_append, ← List.append_assoc,
          List.getLast?_concat] at hlast
        rw [List.concat_eq_append, List.getLast?_concat, hlast]
    rw [List.append_assoc, List.cons_append, indentFrom_line hline, indentFrom_line hline,
      ih hrest, ← List.cons_append, ← List.append_assoc]

/-- The number of newlines stays. -/
theorem count_newline_indentFrom (hi : '\n' ∉ i) (cs : List Char) :
    (indentFrom i true cs).count '\n' = cs.count '\n' := by
  have hzero : i.count '\n' = 0 := List.count_eq_zero.2 hi
  induction cs using Text.fields_induction '\n' with
  | last line h =>
    rw [indentFrom_last h]
    split
    · next hline => rw [hline]
    · rw [List.count_append, hzero, Nat.zero_add]
  | next line rest h ih =>
    rw [indentFrom_line h, List.count_append, List.count_append, List.count_cons_self,
      List.count_append, List.count_cons_self, hzero, ih, Nat.zero_add]

/-- The last of the lines with the indent in front: behind the last newline there may be none. -/
def indentLast (indent line : List Char) : List Char := if line = [] then [] else indent ++ line

/-- **The lines of an indented text** are those of the text, in order, each with the indent in
front, except for an empty one behind the last newline. -/
theorem fields_indentFrom (hi : '\n' ∉ i) {cs last : List Char} {front : List (List Char)}
    (h : Text.fields '\n' cs = front ++ [last]) :
    Text.fields '\n' (indentFrom i true cs) = front.map (i ++ ·) ++ [indentLast i last] := by
  induction cs using Text.fields_induction '\n' generalizing front with
  | last line hline =>
    rw [Text.fields_of_notMem hline] at h
    cases front with
    | cons first front => simp at h
    | nil =>
      obtain rfl : line = last := by simpa using h
      rw [indentFrom_last hline, indentLast]
      split
      · rfl
      · exact Text.fields_of_notMem (newline_notMem_append hi hline)
  | next line rest hline ih =>
    rw [Text.fields_append_cons hline] at h
    cases front with
    | nil => exact absurd (List.cons.inj h).2 (Text.fields_ne_nil '\n' rest)
    | cons first front =>
      obtain ⟨rfl, hrest⟩ := List.cons.inj h
      rw [indentFrom_line hline, Text.fields_append_cons (newline_notMem_append hi hline), ih hrest]
      rfl

/-! ## Taking an indent off -/

/-- A line without the indent in front of it, with which it has to begin. There is nothing to take
off an empty line. -/
def outdentLine? (indent line : List Char) : Option (List Char) :=
  if line = [] then some [] else Text.behind? indent line

/-- **A text without the indent in front of its lines**. Every line that is not empty has to begin
with it. -/
def outdent? (text indent : String) : Option String :=
  ((Text.fields '\n' text.toList).mapM (outdentLine? indent.toList)).map fun lines =>
    String.ofList (['\n'].intercalate lines)

/-- The indent is taken off a line that has it in front. -/
theorem outdentLine?_append (i line : List Char) : outdentLine? i (i ++ line) = some line := by
  unfold outdentLine?
  split
  · next h => rw [(List.append_eq_nil_iff.1 h).2]
  · exact Text.behind?_eq_some_iff.2 rfl

theorem outdentLine?_indentLast (i line : List Char) :
    outdentLine? i (indentLast i line) = some line := by
  unfold indentLast
  split
  · next h => rw [h, outdentLine?, if_pos rfl]
  · exact outdentLine?_append i line

/-- The indent is taken off lines that all have it in front. -/
theorem mapM_outdentLine?_map (i : List Char) (lines : List (List Char)) :
    (lines.map (i ++ ·)).mapM (outdentLine? i) = some lines := by
  induction lines with
  | nil => rfl
  | cons line lines ih =>
    rw [List.map_cons, List.mapM_cons, outdentLine?_append, ih]
    rfl

/-- **An indent can be taken off again.** -/
theorem outdent?_indentLines {indent text : String} (h : '\n' ∉ indent.toList)
    {front : List (List Char)} {last : List Char}
    (hfields : Text.fields '\n' text.toList = front ++ [last]) :
    outdent? (indentLines text indent) indent = some text := by
  unfold outdent? indentLines
  rw [String.toList_ofList, fields_indentFrom h hfields, List.mapM_append,
    mapM_outdentLine?_map, List.mapM_cons, outdentLine?_indentLast]
  show some (String.ofList (['\n'].intercalate (front ++ [last]))) = _
  rw [← hfields, Text.intercalate_fields, String.ofList_toList]

/-! ## Strings -/

/-- **Indenting acts on the lines of a text**: two indents make one, and texts that end with their
lines are indented one by one; the newlines stay, and so do the lines, each with the indent in front
except for an empty one behind the last newline; and the indent can be taken off again. -/
theorem indentLines_acts {i : String} (hi : '\n' ∉ i.toList) (t u j : String) :
    indentLines (indentLines t i) j = indentLines t (j ++ i) ∧
    (t = "" ∨ t.toList.getLast? = some '\n' →
      indentLines (t ++ u) i = indentLines t i ++ indentLines u i) ∧
    (indentLines t i).toList.count '\n' = t.toList.count '\n' ∧
    (∃ front last, Text.fields '\n' t.toList = front ++ [last] ∧
      Text.fields '\n' (indentLines t i).toList =
        front.map (i.toList ++ ·) ++ [if last = [] then [] else i.toList ++ last]) ∧
    outdent? (indentLines t i) i = some t := by
  obtain ⟨front, last, hfields⟩ : ∃ front last, Text.fields '\n' t.toList = front ++ [last] :=
    ⟨_, _, (List.dropLast_append_getLast (Text.fields_ne_nil '\n' t.toList)).symm⟩
  refine ⟨?_, fun hends => ?_, ?_, ⟨front, last, hfields, ?_⟩, outdent?_indentLines hi hfields⟩
  · unfold indentLines
    rw [String.toList_ofList, indentFrom_indentFrom hi, String.toList_append]
  · have hlist : t.toList = [] ∨ t.toList.getLast? = some '\n' :=
      hends.imp_left fun h => by rw [h]; rfl
    unfold indentLines
    rw [String.toList_append, indentFrom_append_of_ends hlist, String.ofList_append]
  · unfold indentLines
    rw [String.toList_ofList, count_newline_indentFrom hi]
  · unfold indentLines
    rw [String.toList_ofList, fields_indentFrom hi hfields]
    rfl

/-- A text with a blank line at its end, and one with a line break of another kind behind it. -/
theorem indentLines_acts_blank_line :
    '\n' ∉ "  ".toList ∧
    indentLines (indentLines "a\n\n" "  ") "> " = indentLines "a\n\n" ("> " ++ "  ") ∧
    "a\n\n".toList.getLast? = some '\n' ∧
    indentLines ("a\n\n" ++ "b\u2028c") "  " =
      indentLines "a\n\n" "  " ++ indentLines "b\u2028c" "  " ∧
    (indentLines "a\n\n" "  ").toList.count '\n' = "a\n\n".toList.count '\n' ∧
    (∃ front last, Text.fields '\n' "a\n\n".toList = front ++ [last] ∧
      Text.fields '\n' (indentLines "a\n\n" "  ").toList =
        front.map ("  ".toList ++ ·) ++ [if last = [] then [] else "  ".toList ++ last]) ∧
    outdent? (indentLines "a\n\n" "  ") "  " = some "a\n\n" := by
  have hi : '\n' ∉ "  ".toList := by decide
  have hends : "a\n\n".toList.getLast? = some '\n' := by decide
  obtain ⟨htwo, hboth, hcount, hlines, hoff⟩ := indentLines_acts hi "a\n\n" "b\u2028c" "> "
  exact ⟨hi, htwo, hends, hboth (.inr hends), hcount, hlines, hoff⟩

end Mustache
