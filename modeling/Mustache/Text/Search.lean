/-!
# Searching a text

Texts are searched from the left, and the first occurrence counts.

## Main definitions

* `Mustache.Text.behind?` — what stands behind a pattern at the start.
* `Mustache.Text.cut?` — what stands before and after the first occurrence of a pattern.
* `Mustache.Text.fields` — the stretches between the occurrences of a character.
* `Mustache.Text.replaceAll` — every occurrence of a pattern replaced.
-/

namespace Mustache.Text

/-- The text behind `pattern`, which it has to begin with. -/
def behind? : (pattern text : List Char) → Option (List Char)
  | [], cs => some cs
  | _ :: _, [] => none
  | p :: ps, c :: cs => if p = c then behind? ps cs else none

theorem behind?_eq_some_iff {pattern text rest : List Char} :
    behind? pattern text = some rest ↔ text = pattern ++ rest := by
  fun_induction behind? pattern text with
  | case1 cs => simp
  | case2 p ps => simp
  | case3 p ps cs ih => simp [ih]
  | case4 p ps c cs hne => simp [Ne.symm hne]

/-- The text before and the text after the first occurrence of `pattern`. The empty pattern
occurs at the start of every text. -/
def cut? (pattern : List Char) : List Char → Option (List Char × List Char)
  | [] => if pattern.isEmpty then some ([], []) else none
  | c :: cs =>
    match behind? pattern (c :: cs) with
    | some rest => some ([], rest)
    | none => (cut? pattern cs).map fun parts => (c :: parts.1, parts.2)

/-- The two parts of a cut are what is around an occurrence. -/
theorem eq_append_of_cut?_eq_some {pattern text before after : List Char}
    (h : cut? pattern text = some (before, after)) : text = before ++ pattern ++ after := by
  induction text generalizing before after with
  | nil =>
    simp only [cut?] at h
    split at h <;> simp_all
  | cons c cs ih =>
    simp only [cut?] at h
    split at h
    · next rest hp =>
      simp only [Option.some.injEq, Prod.mk.injEq] at h
      obtain ⟨rfl, rfl⟩ := h
      simpa using behind?_eq_some_iff.1 hp
    · obtain ⟨parts, hparts, heq⟩ := Option.map_eq_some_iff.1 h
      simp only [Prod.mk.injEq] at heq
      obtain ⟨rfl, rfl⟩ := heq
      simp [ih hparts]

theorem length_of_cut?_eq_some {pattern text before after : List Char}
    (h : cut? pattern text = some (before, after)) :
    text.length = before.length + pattern.length + after.length := by
  simp [eq_append_of_cut?_eq_some h, Nat.add_assoc]

/-- The stretches of a text between the occurrences of `separator`; there is one more of them
than occurrences. -/
def fields (separator : Char) : List Char → List (List Char)
  | [] => [[]]
  | c :: cs =>
    if c == separator then [] :: fields separator cs
    else
      match fields separator cs with
      | [] => [[c]]
      | first :: others => (c :: first) :: others

/-- `fields` on strings. -/
def fieldsOf (separator : Char) (s : String) : List String :=
  (fields separator s.toList).map String.ofList

/-- Every character with `new` in front of it, and `new` at the end. -/
def interleave (new : List Char) : List Char → List Char
  | [] => new
  | c :: cs => new ++ c :: interleave new cs

/-- Replaces the occurrences of the pattern `p :: ps`, found from the left and without overlap.
The first argument counts the characters of an occurrence that are still to be passed over. -/
def replaceFrom (p : Char) (ps new : List Char) : Nat → List Char → List Char
  | _, [] => []
  | skip + 1, _ :: cs => replaceFrom p ps new skip cs
  | 0, c :: cs =>
    if (p :: ps).isPrefixOf (c :: cs) then new ++ replaceFrom p ps new ps.length cs
    else c :: replaceFrom p ps new 0 cs

/-- Every occurrence of `old` replaced by `new`. The empty pattern occurs before every character
and at the end. -/
def replaceAll (old new text : List Char) : List Char :=
  match old with
  | [] => interleave new text
  | p :: ps => replaceFrom p ps new 0 text

end Mustache.Text
