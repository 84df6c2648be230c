import Mustache.Proofs.Token.Margins
import Mustache.Proofs.Token.Shown

/-!
# The places of tokens

A place is a line, counted by the newlines in front of an offset, and a column, counted from the
start of that line. Later offsets have later places, so that a place belongs to one offset, and the
tokens of a source follow one another by their places as they do by their offsets.

## Main definitions

* `Mustache.Place.IsAt` — the place of an offset of a source.
* `Mustache.Place.Before` — the order in which places are read.
* `Mustache.Token.BeginsIn` — a token begins in the source where it says.

## Main results

* `Mustache.Place.IsAt.before`, `Mustache.Place.IsAt.offset_eq` — places tell offsets apart.
* `Mustache.Scanned.beginsIn`, `Mustache.Scanned.pairwise_before` — the tokens of a run.
-/

namespace Mustache

/-! ## Places of offsets -/

namespace Place

/-- **The place of an offset.** The line is one more than the number of newlines in front of the
offset. The column is its distance from the start of the line, behind which there is no other
newline up to the offset. -/
structure IsAt (source : List Char) (offset : Nat) (p : Place) : Prop where
  line : p.line = 1 + (source.take offset).count '\n'
  column : ∃ first, LineStart source first ∧ first + p.column = offset ∧
    '\n' ∉ Text.slice source first offset

/-- The first place is read before the second one: it is in an earlier line, or in the same line and
further to the left. -/
def Before (p q : Place) : Prop := p.line < q.line ∨ p.line = q.line ∧ p.column < q.column

theorem not_before_self (p : Place) : ¬ p.Before p := by
  rintro (hlt | ⟨-, hlt⟩) <;> exact Nat.lt_irrefl _ hlt

variable {source : List Char} {o o' : Nat} {p q : Place}

/-- Between an offset and a line that starts behind it there is a newline. -/
theorem newline_mem_slice {first : Nat} (h : LineStart source first) (hlt : o < first)
    (hle : first ≤ o') : '\n' ∈ Text.slice source o o' := by
  obtain ⟨j, rfl⟩ : ∃ j, first = j + 1 := ⟨first - 1, by omega⟩
  exact Text.mem_slice_iff.2 ⟨j, by omega, by omega, h j rfl⟩

/-- **Later offsets have later places.**

**Proof sketch.** Every newline between the offsets makes the line of the second one later. If there
is none, both are in the line that starts at the same offset, and the columns count from there. -/
theorem IsAt.before (h : p.IsAt source o) (h' : q.IsAt source o') (hlt : o < o') : p.Before q := by
  obtain ⟨first, hfirst, hcolumn, hnone⟩ := h.column
  obtain ⟨first', hfirst', hcolumn', hnone'⟩ := h'.column
  have hsplit : source.take o' = source.take o ++ Text.slice source o o' := by
    have htake := List.take_append_drop o (source.take o')
    rw [List.take_take, Nat.min_eq_left hlt.le] at htake
    exact htake.symm
  have hcount := congrArg (List.count '\n') hsplit
  rw [List.count_append] at hcount
  have hline := h.line
  have hline' := h'.line
  by_cases hnewline : '\n' ∈ Text.slice source o o'
  · have hpos := List.count_pos_iff.2 hnewline
    exact .inl (by omega)
  · have hzero := List.count_eq_zero.2 hnewline
    have hsame : first = first' := by
      rcases Nat.lt_trichotomy first first' with hearlier | heq | hlater
      · -- The later line would start behind a newline in front of `o'`.
        rcases Nat.lt_or_ge o first' with hbehind | hfront
        · exact absurd (newline_mem_slice hfirst' hbehind (by omega)) hnewline
        · exact absurd (newline_mem_slice hfirst' hearlier hfront) hnone
      · exact heq
      · exact absurd (newline_mem_slice hfirst hlater (by omega)) hnone'
    exact .inr ⟨by omega, by omega⟩

/-- **A place belongs to one offset.** -/
theorem IsAt.offset_eq (h : p.IsAt source o) (h' : p.IsAt source o') : o = o' := by
  rcases Nat.lt_trichotomy o o' with hlt | heq | hgt
  · exact absurd (h.before h' hlt) p.not_before_self
  · exact heq
  · exact absurd (h'.before h hgt) p.not_before_self

/-- The place behind a part of a source is that of the offset where the part ends. -/
theorem isAt_placeBehind (front rest : List Char) :
    (placeBehind front).IsAt (front ++ rest) front.length := by
  have hline : (placeBehind front).line =
      1 + ((front ++ rest).take front.length).count '\n' := by
    rw [List.take_left]
    rfl
  by_cases hnewline : '\n' ∈ front
  · obtain ⟨init, hinit⟩ := Text.exists_eq_append_lastLine hnewline
    have hlength := congrArg List.length hinit
    rw [List.length_append, List.length_cons] at hlength
    have hsource : front ++ rest = (init ++ ['\n']) ++ (Text.lastLine front ++ rest) := by
      conv_lhs => rw [hinit]
      simp only [List.append_assoc, List.cons_append, List.nil_append]
    refine ⟨hline, init.length + 1, fun j hj => ?_, by dsimp only [placeBehind]; omega, ?_⟩
    · obtain rfl : init.length = j := by omega
      rw [hsource, List.getElem?_append_left (by simp), List.getElem?_append_right (Nat.le_refl _)]
      simp
    · have hdrop : (front ++ rest).drop (init.length + 1) = Text.lastLine front ++ rest := by
        rw [hsource, List.drop_left' (by simp)]
      rw [Text.slice_eq_of_drop hdrop (by omega)]
      exact Text.newline_not_mem_lastLine front
  · refine ⟨hline, 0, fun j hj => absurd hj (by omega), ?_, ?_⟩
    · dsimp only [placeBehind]
      rw [Text.lastLine_eq_self hnewline, Nat.zero_add]
    · have hdrop : (front ++ rest).drop 0 = front ++ rest := rfl
      rwa [Text.slice_eq_of_drop hdrop (by omega)]

end Place

/-! ## Tokens -/

/-- **A token begins in the source where it says**: at an existing character, the place of which it
tells, with its text or with the opening delimiter of its tag. -/
structure Token.BeginsIn (source : List Char) (t : Token) : Prop where
  lt_length : t.start < source.length
  place : t.place.IsAt source t.start
  text : t.kind = .text → Text.OccursAt t.value.toList source t.start
  tag : t.kind ≠ .text → Text.OccursAt t.delims.opening.toList source t.start

variable {d : Delimiters} {pos : Position} {source text : List Char} {tokens : List Token}
  {t : Token}

/-- What stands in front of a token of a run, and how far the position has got there. -/
theorem Scanned.exists_advance (h : Scanned d pos text tokens) (ht : t ∈ tokens) :
    ∃ front rest, text = front ++ rest ∧ t.place = (pos.advance front).place ∧
      t.start = (pos.advance front).offset := by
  induction h with
  | @last d pos text _ =>
    obtain ⟨-, rfl⟩ := mem_textToken_iff.1 ht
    exact ⟨[], text, rfl, rfl, rfl⟩
  | @tag d _ pos text before body tag tokens found read _ _ ih =>
    rcases mem_tagTokens_append_iff.1 ht with ht | rfl | ht
    · obtain ⟨-, rfl⟩ := mem_textToken_iff.1 ht
      exact ⟨[], text, rfl, rfl, rfl⟩
    · refine ⟨before, d.opening.toList ++ body, ?_, rfl, rfl⟩
      rw [← List.append_assoc]
      exact Text.eq_append_of_cut?_eq_some found
    · obtain ⟨front, rest, hrest, hplace, hstart⟩ := ih ht
      refine ⟨before ++ (d.opening.toList ++ tag.consumed ++
        droppedAfter (marginsOf pos before tag)) ++ front, rest, ?_, ?_, ?_⟩
      · rw [eq_append_of_readTag found read, rest_eq_append_restAfter pos before tag, hrest]
        simp only [List.append_assoc]
      · rw [hplace, advance_append_eq_positionAfter]
      · rw [hstart, advance_append_eq_positionAfter]

/-- **The tokens of a run begin in the source where they say.** -/
theorem Scanned.beginsIn (h : Scanned d .start source tokens) (hd : d.opening.toList ≠ [])
    (ht : t ∈ tokens) : t.BeginsIn source := by
  obtain ⟨front, rest, hsource, hplace, hstart⟩ := h.exists_advance ht
  rw [place_advance_start] at hplace
  rw [Position.advance_start] at hstart
  dsimp only at hstart
  have hfits := ((h.ordered_of_ne_nil rfl hd).1 t ht).2
  refine ⟨Nat.lt_of_lt_of_le hfits.start_lt_stop hfits.stop_le, ?_, fun hk => ?_, fun hk => ?_⟩
  · rw [hplace, hstart, hsource]
    exact Place.isAt_placeBehind front rest
  · rw [hfits.value hk, String.toList_ofList]
    exact ⟨_, (Text.drop_eq_slice_append source hfits.start_lt_stop.le).symm⟩
  · obtain ⟨front', body, -, hfinds, -, -, -, hstart'⟩ := h.finds ht hk
    rw [Position.advance_start] at hstart'
    dsimp only at hstart'
    rw [hstart', hfinds.eq_append, List.append_assoc]
    exact ⟨body, by rw [List.drop_left]⟩

/-- **The tokens of a run follow one another by their places.** -/
theorem Scanned.pairwise_before (h : Scanned d .start source tokens)
    (hd : d.opening.toList ≠ []) : tokens.Pairwise fun t u => t.place.Before u.place := by
  obtain ⟨hmem, hpairs⟩ := h.ordered_of_ne_nil rfl hd
  refine hpairs.imp_of_mem fun {t u} ht hu hstop => ?_
  have hlt := (hmem t ht).2.start_lt_stop
  exact (h.beginsIn hd ht).place.before (h.beginsIn hd hu).place (by omega)

end Mustache
