import Mathlib.Tactic.Common
import Mustache.Proofs.Delimiters
import Mustache.Tree.Build

/-!
# Nesting of tags

When the tags of a token list fit together, told apart from how a tree is built. A tag is read
together with what was said before it: whether the pragma for filters has been met, and which
sections are open. Proper nesting is a grammar; it is the same as no tag being out of place and
no section being open at the end.

## Main definitions

* `Mustache.tagName`, `Mustache.BadlyFiltered` — the name in a tag, and tags that lack one.
* `Mustache.Reading`, `Mustache.readings` — tokens with whether filters are available.
* `Mustache.openAfter` — the opening tags of the sections that are open.
* `Mustache.Nested` — the grammar of properly nested tags.
* `Mustache.Misfit`, `Mustache.Fits`, `Mustache.FirstMisfit` — tags that are out of place.

## Main results

* `Mustache.splitFilters_cases`, `Mustache.splitFilters_eq_none_iff` — what a tag is split
  into.
* `Mustache.nested_iff_fits` — properly nested tags fit and leave no section open.
* `Mustache.fits_or_exists_firstMisfit` — if not all tags fit, one of them is the first that
  does not.
-/

namespace Mustache

/-! ## Names and filters -/

/-- The name in a tag: what stands before the first bar if the tag is split into a name and
filters, and the whole content otherwise. -/
def tagName (filtered : Bool) (content : String) : String :=
  if filtered && content.contains '|' then
    String.ofList (Text.trim (content.toList.takeWhile (· != '|')))
  else content

/-- A tag that is split into a name and filters, of which one is blank. -/
def BadlyFiltered (filtered : Bool) (content : String) : Prop :=
  (filtered && content.contains '|') = true ∧
    ∃ part ∈ Text.fields '|' content.toList, Text.trim part = []

/-- The first stretch of a text ends at the first separator. -/
theorem head?_fields (separator : Char) (cs : List Char) :
    (Text.fields separator cs).head? = some (cs.takeWhile (· != separator)) := by
  induction cs with
  | nil => rfl
  | cons c cs ih =>
    rw [Text.fields]
    by_cases hc : c = separator
    · simp [hc]
    · rw [if_neg (by simpa using hc), List.takeWhile_cons_of_pos (by simpa using hc)]
      cases hf : Text.fields separator cs with
      | nil => simp [hf] at ih
      | cons first others =>
        rw [hf, List.head?_cons, Option.some.injEq] at ih
        rw [List.head?_cons, ih]

/-- A tag is split unless its name or one of its filters is blank. -/
theorem splitFilters_eq_none_iff {filtered : Bool} {content : String} :
    splitFilters filtered content = none ↔ BadlyFiltered filtered content := by
  unfold splitFilters BadlyFiltered
  cases hguard : (filtered && content.contains '|') with
  | false =>
    rw [if_pos (by rw [← Bool.not_and, hguard]; rfl)]
    simp
  | true =>
    rw [if_neg (by rw [← Bool.not_and, hguard]; simp)]
    obtain ⟨first, others, hf⟩ : ∃ first others,
        Text.fields '|' content.toList = first :: others :=
      List.head?_eq_some_iff.1 (head?_fields '|' content.toList) |>.elim fun t h => ⟨_, t, h⟩
    rw [hf]
    simp only [List.map_cons, List.any_map, ite_eq_left_iff, reduceCtorEq, imp_false,
      Decidable.not_not, Bool.or_eq_true, List.isEmpty_iff, List.any_eq_true, Function.comp_apply,
      true_and, List.mem_cons, exists_eq_or_imp]

/-- The name that a tag is split off is the name in the tag. -/
theorem name_eq_of_splitFilters {filtered : Bool} {content name : String} {filters : List String}
    (h : splitFilters filtered content = some (name, filters)) :
    name = tagName filtered content := by
  unfold splitFilters at h
  unfold tagName
  cases hguard : (filtered && content.contains '|') with
  | false =>
    rw [if_pos (by rw [← Bool.not_and, hguard]; rfl), Option.some.injEq, Prod.mk.injEq] at h
    rw [if_neg (by simp), h.1]
  | true =>
    rw [if_neg (by rw [← Bool.not_and, hguard]; simp)] at h
    obtain ⟨others, hf⟩ := List.head?_eq_some_iff.1 (head?_fields '|' content.toList)
    rw [hf, List.map_cons] at h
    dsimp only at h
    split at h
    · simp at h
    · rw [Option.some.injEq, Prod.mk.injEq] at h
      rw [if_pos rfl, h.1]

/-- A tag is split, and into which name, or it is badly filtered. -/
theorem splitFilters_cases (filtered : Bool) (content : String) :
    BadlyFiltered filtered content ∧ splitFilters filtered content = none ∨
      ¬ BadlyFiltered filtered content ∧
        ∃ filters, splitFilters filtered content = some (tagName filtered content, filters) := by
  cases h : splitFilters filtered content with
  | none => exact .inl ⟨splitFilters_eq_none_iff.1 h, rfl⟩
  | some parts =>
    refine .inr ⟨fun hbad => ?_, parts.2, ?_⟩
    · rw [splitFilters_eq_none_iff.2 hbad] at h
      simp at h
    · rw [← name_eq_of_splitFilters h]

/-- A tag with a bar, by what stands between its bars. -/
theorem splitFilters_of_fields {content name : String} {filters : List String}
    (hbar : '|' ∈ content.toList)
    (hfields : (Text.fields '|' content.toList).map Text.trim =
      name.toList :: filters.map String.toList)
    (hnone : (name.toList.isEmpty || (filters.map String.toList).any List.isEmpty) = false) :
    splitFilters true content = some (name, filters) := by
  unfold splitFilters
  rw [if_neg (by simp [hbar]), hfields]
  simp only [hnone, Bool.false_eq_true, if_false, String.ofList_toList, List.map_map,
    Option.some.injEq, Prod.mk.injEq, true_and]
  exact List.map_id'' (fun _ => String.ofList_toList) filters

/-! ## Readings -/

/-- A token, with whether the pragma for filters stands before it. -/
structure Reading where
  token : Token
  filtered : Bool

/-- The pragma for filters. -/
def Token.IsFiltersPragma (t : Token) : Prop := t.kind = .pragma ∧ t.value = filtersPragma

instance (t : Token) : Decidable t.IsFiltersPragma := inferInstanceAs (Decidable (_ ∧ _))

/-- The tokens as they are read, where `filtered` says whether filters are available at first. -/
def readingsFrom (filtered : Bool) : List Token → List Reading
  | [] => []
  | t :: ts => ⟨t, filtered⟩ :: readingsFrom (filtered || decide t.IsFiltersPragma) ts

/-- The tokens of a template as they are read. -/
def readings (tokens : List Token) : List Reading := readingsFrom false tokens

/-- What is read are tokens. -/
theorem token_mem_of_mem_readingsFrom {filtered : Bool} {tokens : List Token} {r : Reading}
    (h : r ∈ readingsFrom filtered tokens) : r.token ∈ tokens := by
  induction tokens generalizing filtered with
  | nil => simp [readingsFrom] at h
  | cons t ts ih =>
    rw [readingsFrom, List.mem_cons] at h
    rcases h with rfl | h
    · simp
    · exact List.mem_cons_of_mem _ (ih h)

namespace Reading

/-- An opening tag. -/
def Opens (r : Reading) : Prop := r.token.kind = .sectionStart ∨ r.token.kind = .invertedStart

/-- A closing tag. -/
def Closes (r : Reading) : Prop := r.token.kind = .sectionEnd

/-- An interpolation. -/
def Interpolates (r : Reading) : Prop :=
  r.token.kind = .interpolation ∨ r.token.kind = .rawInterpolation

/-- The name in the tag. -/
def name (r : Reading) : String := tagName r.filtered r.token.value

/-- A tag whose name or filters are blank. -/
def IsBad (r : Reading) : Prop := BadlyFiltered r.filtered r.token.value

/-- A tag read as if filters were available as at the tag `opener`. -/
def under (r opener : Reading) : Reading := { r with filtered := opener.filtered }

theorem Opens.ne_pragma {r : Reading} (h : r.Opens) : r.token.kind ≠ .pragma := by
  rcases h with hk | hk <;> simp [hk]

theorem Closes.ne_pragma {r : Reading} (h : r.Closes) : r.token.kind ≠ .pragma := by
  rw [show r.token.kind = .sectionEnd from h]
  simp

theorem Closes.ne_text {r : Reading} (h : r.Closes) : r.token.kind ≠ .text := by
  rw [show r.token.kind = .sectionEnd from h]
  simp

theorem Opens.of_kind {r r' : Reading} (h : r.Opens) (hkind : r'.token.kind = r.token.kind) :
    r'.Opens := by
  unfold Opens
  rw [hkind]
  exact h

end Reading

instance (r : Reading) : Decidable r.Opens := inferInstanceAs (Decidable (_ ∨ _))

instance (r : Reading) : Decidable r.Closes := inferInstanceAs (Decidable (_ = _))

/-- The opening tags of the open sections after one more tag, the innermost first. -/
def nextOpen (opened : List Reading) (r : Reading) : List Reading :=
  if r.Opens then r :: opened else if r.Closes then opened.tail else opened

/-- The opening tags of the open sections after some more tags, the innermost first. -/
def openAfter (opened : List Reading) (rs : List Reading) : List Reading := rs.foldl nextOpen opened

/-! ## Proper nesting -/

/-- **Properly nested tags**: opening and closing tags come in pairs around properly nested tags,
with the same name, where the closing tag is read as its opening tag; and no name or filter is
blank. -/
inductive Nested : List Reading → Prop
  /-- No tag is left. -/
  | nil : Nested []
  /-- A token that neither opens nor closes a section. -/
  | leaf {r : Reading} {rest : List Reading} (opens : ¬ r.Opens) (closes : ¬ r.Closes)
    (good : r.Interpolates → ¬ r.IsBad) (after : Nested rest) : Nested (r :: rest)
  /-- A section. -/
  | block {opener closer : Reading} {inner rest : List Reading} (opens : opener.Opens)
    (closes : closer.Closes) (good : ¬ opener.IsBad) (goodCloser : ¬ (closer.under opener).IsBad)
    (same : (closer.under opener).name = opener.name) (within : Nested inner)
    (after : Nested rest) : Nested (opener :: (inner ++ closer :: rest))

/-! ## Tags out of place -/

/-- **A tag that is out of place** among the open sections, and why. -/
inductive Misfit : List Reading → Reading → Malformation → Prop
  /-- No section is open that could be closed. -/
  | unexpectedClose {r : Reading} (closes : r.Closes) :
    Misfit [] r (.unexpectedClose r.token.value)
  /-- A closing tag whose name or filters are blank, when it is read as its opening tag. -/
  | badClose {opener r : Reading} {outer : List Reading} (closes : r.Closes)
    (bad : (r.under opener).IsBad) : Misfit (opener :: outer) r (.emptyFilter r.token.value)
  /-- A closing tag with the name of another section. -/
  | mismatchedClose {opener r : Reading} {outer : List Reading} (closes : r.Closes)
    (good : ¬ (r.under opener).IsBad) (other : (r.under opener).name ≠ opener.name) :
    Misfit (opener :: outer) r (.mismatchedClose opener.name (r.under opener).name)
  /-- Another tag whose name or filters are blank. -/
  | badTag {opened : List Reading} {r : Reading} (names : r.Opens ∨ r.Interpolates)
    (bad : r.IsBad) : Misfit opened r (.emptyFilter r.token.value)

/-- All tags are in place, where the sections of the tags `opened` are open at first. -/
def Fits (opened : List Reading) : List Reading → Prop
  | [] => True
  | r :: rs => (∀ cause, ¬ Misfit opened r cause) ∧ Fits (nextOpen opened r) rs

/-- The first tag that is out of place, and why. -/
def FirstMisfit (opened rs : List Reading) (r : Reading) (cause : Malformation) : Prop :=
  ∃ before after, rs = before ++ r :: after ∧ Fits opened before ∧
    Misfit (openAfter opened before) r cause

/-! ## Nesting and fitting -/

/-- A tag does not both open and close a section. -/
theorem Reading.Opens.not_closes {r : Reading} (h : r.Opens) : ¬ r.Closes := by
  unfold Closes
  rcases h with h | h <;> simp [h]

/-- An interpolation neither opens nor closes a section. -/
theorem Reading.Interpolates.not_opens {r : Reading} (h : r.Interpolates) :
    ¬ r.Opens ∧ ¬ r.Closes := by
  unfold Opens Closes
  rcases h with h | h <;> simp [h]

theorem nextOpen_of_opens {opened : List Reading} {r : Reading} (h : r.Opens) :
    nextOpen opened r = r :: opened := if_pos h

theorem nextOpen_of_closes {opened : List Reading} {r : Reading} (h : r.Closes) :
    nextOpen opened r = opened.tail := by
  rw [nextOpen, if_neg fun ho => ho.not_closes h, if_pos h]

theorem nextOpen_of_leaf {opened : List Reading} {r : Reading} (ho : ¬ r.Opens) (hc : ¬ r.Closes) :
    nextOpen opened r = opened := by
  rw [nextOpen, if_neg ho, if_neg hc]

theorem openAfter_append (opened rs rs' : List Reading) :
    openAfter opened (rs ++ rs') = openAfter (openAfter opened rs) rs' :=
  List.foldl_append

theorem fits_append_iff {opened rs rs' : List Reading} :
    Fits opened (rs ++ rs') ↔ Fits opened rs ∧ Fits (openAfter opened rs) rs' := by
  induction rs generalizing opened with
  | nil => simp [Fits, openAfter]
  | cons r rs ih => simp only [List.cons_append, Fits, ih, and_assoc, openAfter, List.foldl_cons]

/-- An opening tag is in place if its name and filters are not blank. -/
theorem fits_cons_of_opens {opened rs : List Reading} {r : Reading} (h : r.Opens) :
    Fits opened (r :: rs) ↔ ¬ r.IsBad ∧ Fits (r :: opened) rs := by
  rw [Fits, nextOpen_of_opens h]
  refine and_congr_left fun _ => ⟨fun hfit hbad => hfit _ (.badTag (.inl h) hbad), ?_⟩
  rintro hgood cause (hc | ⟨hc, -⟩ | ⟨hc, -⟩ | ⟨-, hbad⟩)
  · exact h.not_closes hc
  · exact h.not_closes hc
  · exact h.not_closes hc
  · exact hgood hbad

/-- A closing tag is in place if it names the innermost open section. -/
theorem fits_cons_of_closes {opened rs : List Reading} {r : Reading} (h : r.Closes) :
    Fits opened (r :: rs) ↔ ∃ opener outer, opened = opener :: outer ∧
      ¬ (r.under opener).IsBad ∧ (r.under opener).name = opener.name ∧ Fits outer rs := by
  have hnames : ¬ (r.Opens ∨ r.Interpolates) := by
    rintro (ho | hi)
    · exact ho.not_closes h
    · exact hi.not_opens.2 h
  rw [Fits, nextOpen_of_closes h]
  constructor
  · rintro ⟨hfit, hrest⟩
    cases opened with
    | nil => exact absurd (.unexpectedClose h) (hfit _)
    | cons opener outer =>
      have hgood : ¬ (r.under opener).IsBad := fun hbad => hfit _ (.badClose h hbad)
      refine ⟨opener, outer, rfl, hgood, ?_, hrest⟩
      by_contra hother
      exact hfit _ (.mismatchedClose h hgood hother)
  · rintro ⟨opener, outer, rfl, hgood, hsame, hrest⟩
    refine ⟨?_, hrest⟩
    rintro cause (- | ⟨-, hbad⟩ | ⟨-, -, hother⟩ | ⟨hn, -⟩)
    · exact hgood hbad
    · exact hother hsame
    · exact hnames hn

/-- Another token is in place unless it is a badly filtered interpolation. -/
theorem fits_cons_of_leaf {opened rs : List Reading} {r : Reading} (ho : ¬ r.Opens)
    (hc : ¬ r.Closes) :
    Fits opened (r :: rs) ↔ (r.Interpolates → ¬ r.IsBad) ∧ Fits opened rs := by
  rw [Fits, nextOpen_of_leaf ho hc]
  refine and_congr_left fun _ => ⟨fun hfit hi hbad => hfit _ (.badTag (.inr hi) hbad), ?_⟩
  rintro hgood cause (h | ⟨h, -⟩ | ⟨h, -⟩ | ⟨h | h, hbad⟩)
  · exact hc h
  · exact hc h
  · exact hc h
  · exact ho h
  · exact hgood h hbad

/-- Properly nested tags fit wherever they stand, and leave the open sections as they were. -/
theorem Nested.fits {rs : List Reading} (h : Nested rs) (opened : List Reading) :
    Fits opened rs ∧ openAfter opened rs = opened := by
  induction h generalizing opened with
  | nil => exact ⟨trivial, rfl⟩
  | leaf ho hc hgood _ ih =>
    refine ⟨(fits_cons_of_leaf ho hc).2 ⟨hgood, (ih opened).1⟩, ?_⟩
    rw [openAfter, List.foldl_cons, nextOpen_of_leaf ho hc]
    exact (ih opened).2
  | @block opener closer inner rest ho hc hgood hclose hsame _ _ ihin ihout =>
    obtain ⟨hin, hopen⟩ := ihin (opener :: opened)
    obtain ⟨hout, hopen'⟩ := ihout opened
    constructor
    · rw [fits_cons_of_opens ho, fits_append_iff, hopen, fits_cons_of_closes hc]
      exact ⟨hgood, hin, opener, opened, rfl, hclose, hsame, hout⟩
    · show openAfter (nextOpen opened opener) (inner ++ closer :: rest) = opened
      rw [nextOpen_of_opens ho, openAfter_append, hopen, openAfter, List.foldl_cons,
        nextOpen_of_closes hc, List.tail_cons]
      exact hopen'

/-- Tags that close the open sections from the innermost to the outermost, with properly nested
tags before, between and after them. -/
inductive Finishes : List Reading → List Reading → Prop
  /-- No section is open. -/
  | nested {rs : List Reading} (h : Nested rs) : Finishes [] rs
  /-- The innermost open section is closed. -/
  | close {opener closer : Reading} {outer inner rest : List Reading} (closes : closer.Closes)
    (good : ¬ (closer.under opener).IsBad) (same : (closer.under opener).name = opener.name)
    (within : Nested inner) (after : Finishes outer rest) :
    Finishes (opener :: outer) (inner ++ closer :: rest)

/-- What may stand in front of properly nested tags may stand in front of tags that close the open
sections. -/
theorem Finishes.prepend {opened rs : List Reading} (h : Finishes opened rs)
    (front : List Reading) (hfront : ∀ inner, Nested inner → Nested (front ++ inner)) :
    Finishes opened (front ++ rs) := by
  cases h with
  | nested h => exact .nested (hfront _ h)
  | close hc hgood hsame hin hout =>
    rw [← List.append_assoc]
    exact .close hc hgood hsame (hfront _ hin) hout

/-- Tags that fit and leave no section open close what was open.

**Proof sketch.** Induction on the tags. In front of tags that close what was open, a leaf joins
the properly nested tags up to the next closing tag; an opening tag makes a section of the tags
up to the closing tag that was found for it; a closing tag has no tags between it and the
innermost section. -/
theorem finishes_of_fits {opened rs : List Reading} (h : Fits opened rs)
    (hopen : openAfter opened rs = []) : Finishes opened rs := by
  induction rs generalizing opened with
  | nil =>
    obtain rfl : opened = [] := hopen
    exact .nested .nil
  | cons r rs ih =>
    rw [openAfter, List.foldl_cons] at hopen
    by_cases ho : r.Opens
    · rw [nextOpen_of_opens ho] at hopen
      obtain ⟨hgood, hrest⟩ := (fits_cons_of_opens ho).1 h
      cases ih hrest hopen with
      | @close _ closer _ inner rest hc hclose hsame hin hout =>
        have hblock := hout.prepend (r :: (inner ++ [closer])) fun after hafter => by
          simpa using Nested.block ho hc hgood hclose hsame hin hafter
        simpa using hblock
    · by_cases hc : r.Closes
      · rw [nextOpen_of_closes hc] at hopen
        obtain ⟨opener, outer, rfl, hgood, hsame, hrest⟩ := (fits_cons_of_closes hc).1 h
        exact .close hc hgood hsame .nil (ih hrest hopen)
      · rw [nextOpen_of_leaf ho hc] at hopen
        obtain ⟨hgood, hrest⟩ := (fits_cons_of_leaf ho hc).1 h
        exact (ih hrest hopen).prepend [r] fun inner hin => .leaf ho hc hgood hin

/-- **Proper nesting is fitting**: tags are properly nested exactly if all of them are in place
and no section is open at the end. -/
theorem nested_iff_fits {rs : List Reading} : Nested rs ↔ Fits [] rs ∧ openAfter [] rs = [] := by
  refine ⟨fun h => h.fits [], fun ⟨hfits, hopen⟩ => ?_⟩
  cases finishes_of_fits hfits hopen with
  | nested h => exact h

/-- If not all tags are in place, one of them is the first that is not. -/
theorem fits_or_exists_firstMisfit (opened rs : List Reading) :
    Fits opened rs ∨ ∃ r cause, FirstMisfit opened rs r cause := by
  induction rs generalizing opened with
  | nil => exact .inl trivial
  | cons r rs ih =>
    by_cases hr : ∃ cause, Misfit opened r cause
    · obtain ⟨cause, hr⟩ := hr
      exact .inr ⟨r, cause, [], rs, rfl, trivial, hr⟩
    · rw [not_exists] at hr
      rcases ih (nextOpen opened r) with hfits | ⟨r', cause, before, after, rfl, hbefore, hmisfit⟩
      · exact .inl ⟨hr, hfits⟩
      · exact .inr ⟨r', cause, r :: before, after, rfl, ⟨hr, hbefore⟩, hmisfit⟩

end Mustache
