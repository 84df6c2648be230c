import Mustache.Indent
import Mustache.Proofs.Delimiters
import Mustache.Proofs.Text.Line
import Mustache.Proofs.Text.Occurrence

/-!
# Line ends of two characters

Every newline of a text may be written as a carriage return and a newline. Searching a text for
words, taking its last line, trimming it, splitting it into words and indenting its lines all
commute with that.

## Main definitions

* `Mustache.Text.crlf` — every newline with a carriage return in front.
* `Mustache.crlf` — the same for strings.

## Main results

* `Mustache.Text.cut?_crlf`, `Mustache.Text.trim_crlf`, `Mustache.Text.words_crlf` — searching,
  trimming and splitting.
* `Mustache.indentLines_crlf` — indenting.
-/

namespace Mustache

namespace Text

/-! ## Newlines -/

/-- A newline with a carriage return in front, and any other character as it is. -/
def crlfChar (c : Char) : List Char := if c = '\n' then ['\r', '\n'] else [c]

/-- **Every newline with a carriage return in front.** -/
def crlf (cs : List Char) : List Char := cs.flatMap crlfChar

@[simp] theorem crlf_nil : crlf [] = [] := rfl

theorem crlf_newline (cs : List Char) : crlf ('\n' :: cs) = '\r' :: '\n' :: crlf cs := rfl

theorem crlf_cons {c : Char} (h : c ≠ '\n') (cs : List Char) : crlf (c :: cs) = c :: crlf cs := by
  rw [crlf, List.flatMap_cons, crlfChar, if_neg h]
  rfl

theorem crlf_append (cs ds : List Char) : crlf (cs ++ ds) = crlf cs ++ crlf ds :=
  List.flatMap_append

/-- A text without newlines stays as it is. -/
theorem crlf_eq_self {cs : List Char} (h : '\n' ∉ cs) : crlf cs = cs := by
  induction cs with
  | nil => rfl
  | cons c cs ih =>
    rw [List.mem_cons, not_or] at h
    rw [crlf_cons (Ne.symm h.1), ih h.2]

theorem length_crlf (cs : List Char) : (crlf cs).length = cs.length + cs.count '\n' := by
  induction cs with
  | nil => rfl
  | cons c cs ih =>
    by_cases hc : c = '\n'
    · subst hc
      rw [crlf_newline, List.length_cons, List.length_cons, ih, List.length_cons,
        List.count_cons_self]
      omega
    · rw [crlf_cons hc, List.length_cons, ih, List.length_cons, List.count_cons_of_ne hc]
      omega

/-- Only a text without newlines stays as it is. -/
theorem crlf_eq_self_iff {cs : List Char} : crlf cs = cs ↔ '\n' ∉ cs := by
  refine ⟨fun h => ?_, crlf_eq_self⟩
  have hlength := length_crlf cs
  rw [h] at hlength
  exact List.count_eq_zero.1 (by omega)

@[simp] theorem crlf_eq_nil_iff {cs : List Char} : crlf cs = [] ↔ cs = [] := by
  cases cs with
  | nil => simp
  | cons c cs =>
    by_cases hc : c = '\n'
    · subst hc
      simp [crlf_newline]
    · simp [crlf_cons hc]

@[simp] theorem newline_mem_crlf_iff {cs : List Char} : '\n' ∈ crlf cs ↔ '\n' ∈ cs := by
  induction cs with
  | nil => simp
  | cons c cs ih =>
    by_cases hc : c = '\n'
    · subst hc
      simp [crlf_newline]
    · simp [crlf_cons hc, ih]

/-- The last character stays. -/
theorem getLast?_crlf (cs : List Char) : (crlf cs).getLast? = cs.getLast? := by
  rcases List.eq_nil_or_concat cs with rfl | ⟨init, c, rfl⟩
  · rfl
  · rw [List.concat_eq_append, crlf_append, List.getLast?_append, List.getLast?_append]
    by_cases hc : c = '\n'
    · subst hc
      rfl
    · rw [crlf_cons hc]
      rfl

/-- The last line stays. -/
theorem lastLine_crlf (cs : List Char) : lastLine (crlf cs) = lastLine cs := by
  by_cases h : '\n' ∈ cs
  · obtain ⟨init, hinit⟩ := exists_eq_append_lastLine h
    rw [hinit, crlf_append, crlf_newline, crlf_eq_self (newline_not_mem_lastLine cs),
      ← List.singleton_append (l := '\n' :: lastLine cs), ← List.append_assoc,
      lastLine_append_newline, lastLine_append_newline]
  · rw [crlf_eq_self h]

/-! ## Searching -/

/-- A word does not begin with a line end. -/
theorem behind?_blank {pattern : List Char} (hp : IsWord pattern) {c : Char}
    (hc : isBlank c = true) (cs : List Char) : behind? pattern (c :: cs) = none := by
  obtain ⟨p, ps, rfl⟩ := List.exists_cons_of_ne_nil hp.1
  refine if_neg ?_
  rintro rfl
  have hword := hp.2 p List.mem_cons_self
  rw [hc] at hword
  simp at hword

theorem behind?_crlf {pattern : List Char} (hp : ∀ c ∈ pattern, isBlank c = false)
    (cs : List Char) : behind? pattern (crlf cs) = (behind? pattern cs).map crlf := by
  induction pattern generalizing cs with
  | nil => rfl
  | cons p ps ih =>
    rw [List.forall_mem_cons] at hp
    have hword : IsWord (p :: ps) := ⟨by simp, by simpa using hp⟩
    cases cs with
    | nil => rfl
    | cons c cs =>
      by_cases hc : c = '\n'
      · subst hc
        rw [crlf_newline, behind?_blank hword (by decide), behind?_blank hword (by decide)]
        rfl
      · rw [crlf_cons hc, behind?, behind?]
        split
        · exact ih hp.2 cs
        · rfl

/-- **A word is found where it was.** -/
theorem cut?_crlf {pattern : List Char} (hp : IsWord pattern) (cs : List Char) :
    cut? pattern (crlf cs) = (cut? pattern cs).map fun parts => (crlf parts.1, crlf parts.2) := by
  induction cs with
  | nil => rw [crlf_nil, cut?, if_neg (by simpa using hp.1)]; rfl
  | cons c cs ih =>
    by_cases hc : c = '\n'
    · subst hc
      rw [crlf_newline, cut?, behind?_blank hp (by decide), cut?, behind?_blank hp (by decide), ih,
        cut?, behind?_blank hp (by decide)]
      simp only [Option.map_map, Function.comp_def, crlf_newline]
    · have hbehind := behind?_crlf hp.2 (c :: cs)
      rw [crlf_cons hc] at hbehind ⊢
      rw [cut?, cut?, hbehind, ih]
      cases behind? pattern (c :: cs) with
      | some rest => rfl
      | none => simp only [Option.map_none, Option.map_map, Function.comp_def, crlf_cons hc]

/-! ## Trimming and splitting -/

theorem dropWhile_isBlank_crlf (cs : List Char) :
    (crlf cs).dropWhile isBlank = crlf (cs.dropWhile isBlank) := by
  induction cs with
  | nil => rfl
  | cons c cs ih =>
    by_cases hc : c = '\n'
    · subst hc
      rw [crlf_newline, List.dropWhile_cons_of_pos (by decide),
        List.dropWhile_cons_of_pos (by decide), List.dropWhile_cons_of_pos (by decide), ih]
    · rw [crlf_cons hc, List.dropWhile_cons, List.dropWhile_cons]
      split
      · exact ih
      · rw [crlf_cons hc]

theorem dropWhile_isBlank_reverse_crlf (cs : List Char) :
    ((crlf cs).reverse.dropWhile isBlank).reverse =
      crlf (cs.reverse.dropWhile isBlank).reverse := by
  induction cs using List.reverseRecOn with
  | nil => rfl
  | append_singleton cs c ih =>
    rw [crlf_append, List.reverse_append, List.reverse_append]
    by_cases hc : c = '\n'
    · subst hc
      exact ih
    · rw [crlf_cons hc, crlf_nil, List.reverse_singleton, List.singleton_append,
        List.singleton_append, List.dropWhile_cons, List.dropWhile_cons]
      split
      · exact ih
      · rw [List.reverse_cons, List.reverse_cons, List.reverse_reverse, List.reverse_reverse,
          crlf_append, crlf_cons hc]
        rfl

/-- **Both characters of a line end are trimmed.** -/
theorem trim_crlf (cs : List Char) : trim (crlf cs) = crlf (trim cs) := by
  unfold trim
  rw [dropWhile_isBlank_crlf, dropWhile_isBlank_reverse_crlf]

theorem wordsFrom_crlf (current cs : List Char) :
    wordsFrom current (crlf cs) = wordsFrom current cs := by
  induction cs generalizing current with
  | nil => rfl
  | cons c cs ih =>
    by_cases hc : c = '\n'
    · subst hc
      have hreturn : isBlank '\r' = true := by decide
      have hnewline : isBlank '\n' = true := by decide
      rw [crlf_newline]
      simp only [wordsFrom, hreturn, hnewline, if_true, List.isEmpty_nil, ih]
    · rw [crlf_cons hc, wordsFrom, wordsFrom, ih, ih]

/-- **The words of a text stay.** -/
theorem words_crlf (cs : List Char) : words (crlf cs) = words cs := wordsFrom_crlf [] cs

/-! ## Line ends behind blanks -/

theorem takeWhile_isMargin_crlf (cs : List Char) :
    (crlf cs).takeWhile isMargin = cs.takeWhile isMargin := by
  induction cs with
  | nil => rfl
  | cons c cs ih =>
    by_cases hc : c = '\n'
    · subst hc
      rfl
    · rw [crlf_cons hc, List.takeWhile_cons, List.takeWhile_cons, ih]

theorem dropWhile_isMargin_crlf (cs : List Char) :
    (crlf cs).dropWhile isMargin = crlf (cs.dropWhile isMargin) := by
  induction cs with
  | nil => rfl
  | cons c cs ih =>
    by_cases hc : c = '\n'
    · subst hc
      rfl
    · rw [crlf_cons hc, List.dropWhile_cons, List.dropWhile_cons]
      split
      · exact ih
      · rw [crlf_cons hc]

end Text

/-! ## Strings -/

/-- Every newline of a string with a carriage return in front. -/
def crlf (s : String) : String := String.ofList (Text.crlf s.toList)

@[simp] theorem toList_crlf (s : String) : (crlf s).toList = Text.crlf s.toList :=
  String.toList_ofList

theorem crlf_ofList (cs : List Char) : crlf (String.ofList cs) = String.ofList (Text.crlf cs) := by
  rw [crlf, String.toList_ofList]

theorem crlf_append (s t : String) : crlf (s ++ t) = crlf s ++ crlf t := by
  unfold crlf
  rw [String.toList_append, Text.crlf_append, String.ofList_append]

/-- A string without newlines stays as it is. -/
theorem crlf_eq_self {s : String} (h : '\n' ∉ s.toList) : crlf s = s := by
  unfold crlf
  rw [Text.crlf_eq_self h, String.ofList_toList]

/-! ## Indenting -/

theorem indentFrom_crlf {indent : List Char} (h : '\n' ∉ indent) (atStart : Bool)
    (cs : List Char) :
    indentFrom indent atStart (Text.crlf cs) = Text.crlf (indentFrom indent atStart cs) := by
  induction cs generalizing atStart with
  | nil => cases atStart <;> rfl
  | cons c cs ih =>
    by_cases hc : c = '\n'
    · subst hc
      rw [Text.crlf_newline]
      cases atStart with
      | true =>
        show indent ++ '\r' :: '\n' :: indentFrom indent true (Text.crlf cs) =
          Text.crlf (indent ++ '\n' :: indentFrom indent true cs)
        rw [Text.crlf_append, Text.crlf_newline, Text.crlf_eq_self h, ih]
      | false =>
        show '\r' :: '\n' :: indentFrom indent true (Text.crlf cs) =
          Text.crlf ('\n' :: indentFrom indent true cs)
        rw [Text.crlf_newline, ih]
    · rw [Text.crlf_cons hc]
      cases atStart with
      | true =>
        rw [indentFrom, indentFrom, Text.crlf_append, Text.crlf_cons hc, Text.crlf_eq_self h, ih]
      | false => rw [indentFrom, indentFrom, Text.crlf_cons hc, ih]

/-- **Lines are indented alike**, whichever line ends they have. -/
theorem indentLines_crlf {indent : String} (h : '\n' ∉ indent.toList) (text : String) :
    indentLines (crlf text) indent = crlf (indentLines text indent) := by
  unfold indentLines
  rw [toList_crlf, indentFrom_crlf h, crlf_ofList]

end Mustache
