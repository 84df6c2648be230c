import Mustache.Proofs.Text.ShownLine
import Mustache.Proofs.Token.Found

/-!
# The line that is shown for a tag

Errors show the line of the source in which the opening delimiter of a tag stands, as it is found
under the number of the line among the lines that are shown. If the source has no other breaks up to
there it is the line that the scanner has counted, and the tag begins at its column.

## Main definitions

* `Mustache.IsLineOf` — the line of a source in which a tag begins.
* `Mustache.Malformed.Shows`, `Mustache.Snippet.Shows` — errors that show this line.

## Main results

* `Mustache.Finds.exists_isLineOf` — the line under the number of a tag.
* `Mustache.Finds.shows_around`, `Mustache.Finds.shows_of_place` — what errors show.
-/

namespace Mustache

/-- **The line in which a tag begins**: the part `front` of the source stands before the opening
delimiter, and the line is the one that is counted there, without a carriage return at its end. -/
structure IsLineOf (source : String) (front : List Char) (d : Delimiters) (line : String) :
    Prop where
  counted : ∃ raw, (Text.fields '\n' source.toList)[front.count '\n']? = some raw ∧
    line.toList = Text.withoutReturn raw
  /-- The opening delimiter stands behind as many characters as the column says. -/
  begins : ∃ more, line.toList = Text.lastLine front ++ d.opening.toList ++ more

/-- The line and the column behind a part of a source. -/
def placeBehind (front : List Char) : Place := ⟨1 + front.count '\n', (Text.lastLine front).length⟩

theorem place_advance_start (front : List Char) :
    (Position.start.advance front).place = placeBehind front := by
  rw [Position.advance_start]
  rfl

/-- The word at the end of a text does not make it end with a carriage return. -/
theorem Text.getLast?_append_word {w : List Char} (hw : IsWord w) (cs : List Char) :
    (cs ++ w).getLast? ≠ some '\r' := by
  rw [List.getLast?_append_of_ne_nil cs hw.1]
  intro h
  have hblank := hw.2 _ (List.mem_of_getLast? h)
  simp [isBlank] at hblank

/-- A word has no line breaks. -/
theorem Text.takeWhile_word_append {w : List Char} (hw : IsWord w) (cs : List Char) :
    (w ++ cs).takeWhile (· != '\n') = w ++ cs.takeWhile (· != '\n') := by
  refine List.takeWhile_append_of_pos (forall_bne_of_notMem fun h => ?_)
  have hblank := hw.2 _ h
  simp [isBlank] at hblank

section

variable {d₀ d : Delimiters} {source : String} {front body : List Char}

/-- **The line that is shown under the number of a tag** is the one in which the tag begins, if the
lines up to there have no other breaks. -/
theorem Finds.exists_isLineOf (h : Finds d₀ .start source.toList front d body) (hd₀ : d₀.IsPlain)
    (hplain : Text.BreaksPlainly (front.count '\n' + 1) source.toList) :
    ∃ line, (Text.shownLines source)[front.count '\n']? = some line ∧
      IsLineOf source front d line := by
  have hword := (h.isPlain hd₀).opening
  have hcounted := Text.getElem?_fields_append front (d.opening.toList ++ body)
  rw [← List.append_assoc, ← h.eq_append, Text.takeWhile_word_append hword] at hcounted
  have hshown := Text.getElem?_shownLinesFrom hcounted (by simp [hword.1]) hplain
  rw [← List.append_assoc] at hcounted hshown
  obtain ⟨more, hmore⟩ := Text.exists_withoutReturn_append
    (Text.getLast?_append_word hword (Text.lastLine front)) (body.takeWhile (· != '\n'))
  refine ⟨_, by rw [Text.shownLines, List.getElem?_map, hshown]; rfl, ⟨_, hcounted, ?_⟩, more, ?_⟩
  · rw [String.toList_ofList]
  · rw [String.toList_ofList, hmore]

end

/-! ## Snippets -/

/-- **A snippet that shows the line of a tag**: under the number of the line of the error there is
this line and no other, and the caret stands under the column of the tag. -/
structure Snippet.Shows (s : Snippet) (source : String) (front : List Char) (d : Delimiters) :
    Prop where
  errorLine : s.errorLine = ((placeBehind front).line : Int)
  column : s.column = some ((placeBehind front).column : Int)
  line : ∃ line, IsLineOf source front d line ∧
    ∀ entry, entry ∈ s.lines ∧ entry.1 = s.errorLine ↔ entry = (s.errorLine, line)

/-- The lines of a snippet are the shown lines around the line of the error. -/
theorem Snippet.mem_around_iff {source : String} {n context : Int} {column : Option Int}
    {entry : Int × String} :
    entry ∈ (Snippet.around source n context column).lines ↔
      ∃ i : Nat, n - 1 - context ≤ i ∧ (i : Int) < n + context ∧
        (Text.shownLines source)[i]? = some entry.2 ∧ entry.1 = (i : Int) + 1 := by
  simp only [around, List.mem_map, Prod.exists, List.mk_mem_zipIdx_iff_le_and_getElem?_sub,
    List.getElem?_drop, List.getElem?_take]
  constructor
  · rintro ⟨text, i, ⟨hfirst, htext⟩, rfl⟩
    rw [Nat.add_sub_cancel' hfirst] at htext
    split at htext
    · exact ⟨i, by omega, by omega, htext, rfl⟩
    · simp at htext
  · rintro ⟨i, hfirst, hlast, htext, hnumber⟩
    have hlength := (List.getElem?_eq_some_iff.1 htext).1
    refine ⟨entry.2, i, ⟨by omega, ?_⟩, by rw [← hnumber]⟩
    rw [Nat.add_sub_cancel' (by omega), if_pos (by omega), htext]

section

variable {d₀ d : Delimiters} {source : String} {front body : List Char}

/-- **The snippet around the place of a tag shows its line.** -/
theorem Finds.shows_around (h : Finds d₀ .start source.toList front d body) (hd₀ : d₀.IsPlain)
    (hplain : Text.BreaksPlainly (front.count '\n' + 1) source.toList) :
    (Snippet.around source (placeBehind front).line Snippet.usualContext
      (some ((placeBehind front).column : Int))).Shows source front d where
  errorLine := rfl
  column := rfl
  line := by
    obtain ⟨line, hline, hof⟩ := h.exists_isLineOf hd₀ hplain
    refine ⟨line, hof, fun entry => ?_⟩
    have hnumber : (Snippet.around source (placeBehind front).line Snippet.usualContext
        (some ((placeBehind front).column : Int))).errorLine = (front.count '\n' : Int) + 1 := by
      simp only [Snippet.around, placeBehind]
      omega
    rw [Snippet.mem_around_iff, hnumber]
    constructor
    · rintro ⟨⟨i, -, -, htext, hi⟩, hsame⟩
      obtain rfl : i = front.count '\n' := by omega
      exact Prod.ext hsame (Option.some.inj (htext.symm.trans hline))
    · rintro rfl
      exact ⟨⟨_, by simp only [placeBehind, Snippet.usualContext]; omega,
        by simp only [placeBehind, Snippet.usualContext]; omega, hline, rfl⟩, rfl⟩

end

/-! ## Malformed templates -/

/-- **An error that shows the line of a tag**, under its number, and a caret under the column. -/
def Malformed.Shows (e : Malformed) (source : String) (front : List Char) (d : Delimiters) :
    Prop :=
  ∃ line, IsLineOf source front d line ∧
    e.shownLine? = some (((placeBehind front).line : Int), line) ∧
    e.excerpt = "\n" ++ Snippet.gutter ++ "\n" ++
      Text.padLeft 3 (toString ((placeBehind front).line : Int)) ++ " | " ++ line ++
      "\n" ++ Snippet.caret (placeBehind front).column

/-- An error at the place of a tag shows the line of the tag. -/
theorem Finds.shows_of_place {d₀ d : Delimiters} {source : String} {front body : List Char}
    (h : Finds d₀ .start source.toList front d body) (hd₀ : d₀.IsPlain)
    (hplain : Text.BreaksPlainly (front.count '\n' + 1) source.toList) {e : Malformed}
    (hsource : e.source = some source) (hline : e.line = some ((placeBehind front).line : Int))
    (hcolumn : e.column = some ((placeBehind front).column : Int)) :
    e.Shows source front d := by
  obtain ⟨line, hshown, hof⟩ := h.exists_isLineOf hd₀ hplain
  have hknown : e.knownLine? = some ((placeBehind front).line : Int) := by
    rw [Malformed.knownLine?, hline, Option.filter_some, if_pos]
    simp only [placeBehind, bne_iff_ne]
    omega
  have hindex : ((placeBehind front).line : Int).toNat - 1 = front.count '\n' := by
    simp only [placeBehind]
    omega
  have hline? : e.shownLine? = some (((placeBehind front).line : Int), line) := by
    rw [Malformed.shownLine?, hsource, hknown, Option.bind_eq_bind, Option.bind_some,
      Option.bind_eq_bind, Option.bind_some, if_neg (by omega), hindex, hshown]
    rfl
  refine ⟨line, hof, hline?, ?_⟩
  simp only [Malformed.excerpt, hline?, hcolumn, Option.map_some, Option.getD_some,
    String.append_assoc]

end Mustache
