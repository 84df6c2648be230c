import Mustache.Proofs.Text.Line
import Mustache.Proofs.Token.Decomposition

/-!
# What tokens leave out

The scanner decides from the text between two tags and from what follows the second one whether
it has its line to itself. This module describes the same tags by the lines of the whole source
and by the tags before them, and shows that exactly their margins are missing from the tokens.

## Main definitions

* `Mustache.LineStart` — a line of the source starts at an offset.
* `Mustache.StandsAlone` — a tag has its line to itself, and how far its margins reach.
* `Mustache.Resumes` — how the position of a run lies behind the tags before.

## Main results

* `Mustache.Resumes.standsAlone_iff` — the decision of the scanner agrees with the lines of the
  source.
* `Mustache.Resumes.next` — a step leads to such a position again.
* `Mustache.uncovered_iff_margin` — what no token covers is the margin of a tag that has its line
  to itself.
-/

namespace Mustache

/-! ## Tags that have their line to themselves -/

/-- A line of the source starts at the offset: it is the start of the source, or a newline stands
before it. -/
def LineStart (source : List Char) (i : Nat) : Prop := ∀ j, i = j + 1 → source[j]? = some '\n'

/-- **The tag `t` has its line to itself**: from the start of the line at `first` on there are only
blanks in front of it and no earlier tag ends there, and up to the end of the line at `last` there
are only blanks behind it. -/
structure StandsAlone (source : List Char) (tokens : List Token) (t : Token) (first last : Nat) :
    Prop where
  isTag : t ∈ tagsOf tokens
  kind : t.kind.isInterpolation = false
  lineStart : LineStart source first
  first_le : first ≤ t.start
  leading : ∀ c ∈ Text.slice source first t.start, Text.isMargin c = true
  /-- No earlier tag ends after the start of the line. -/
  alone : ∀ u ∈ tagsOf tokens, u.start < t.start → u.stop ≤ first
  le_last : t.stop ≤ last
  last_le : last ≤ source.length
  trailing : ∃ blanks ending : List Char, Text.slice source t.stop last = blanks ++ ending ∧
    (∀ c ∈ blanks, Text.isMargin c = true) ∧
    (ending = ['\n'] ∨ ending = ['\r', '\n'] ∨ ending = [] ∧ last = source.length)

/-- The offset lies in one of the margins of a tag. -/
def InMargin (t : Token) (first last i : Nat) : Prop :=
  first ≤ i ∧ i < t.start ∨ t.stop ≤ i ∧ i < last

/-- No token covers the offset. -/
def Uncovered (tokens : List Token) (i : Nat) : Prop :=
  ∀ t ∈ tokens, ¬ (t.start ≤ i ∧ i < t.stop)

/-! ## Positions of a run -/

/-- **The position of a run behind the tags before.** The last of them ends at `floor`; what lies
between is its margin, so that the position is the start of a line or the end of the source. -/
structure Resumes (source : List Char) (all : List Token) (floor : Nat) (pos : Position)
    (tokens : List Token) : Prop where
  position : pos = Position.start.advance (source.take pos.offset)
  floor_le : floor ≤ pos.offset
  le_length : pos.offset ≤ source.length
  margin : pos.offset = floor ∨ LineStart source pos.offset ∨ pos.offset = source.length
  /-- The tags that begin before the position end at `floor` or before. -/
  earlier : ∀ x, (∀ u ∈ tagsOf all, u.start < pos.offset → u.stop ≤ x) ↔ floor ≤ x
  /-- The tags behind the position are still to come. -/
  later : ∀ u ∈ tagsOf all, pos.offset ≤ u.start → u ∈ tokens
  mem : ∀ u ∈ tokens, u ∈ all

/-- The column is zero exactly at the start of a line. -/
theorem Resumes.column_eq_zero_iff {source : List Char} {all tokens : List Token} {floor : Nat}
    {pos : Position} (h : Resumes source all floor pos tokens) :
    pos.column = 0 ↔ LineStart source pos.offset := by
  rw [h.position, Position.column_advance_eq_zero_iff, ← h.position]
  unfold LineStart
  cases hoff : pos.offset with
  | zero => simp [Position.start]
  | succ k =>
    have hk : k < source.length := by
      have := h.le_length
      omega
    have hne : source ≠ [] := List.ne_nil_of_length_pos (by omega)
    rw [List.take_succ_eq_append_getElem hk, List.getLast?_append]
    simp [List.getElem?_eq_getElem hk, hne]

/-! ## Lines around a tag -/

/-- A stretch of blanks reaches back to the start of a line behind a newline exactly if it is the
last line of the text. -/
theorem lineStart_iff_of_newline {source before rest : List Char} {o : Nat}
    (hsource : source.drop o = before ++ rest) (hnl : '\n' ∈ before) (first : Nat) :
    (LineStart source first ∧ first ≤ o + before.length ∧
      ∀ c ∈ Text.slice source first (o + before.length), Text.isMargin c = true) ↔
    (∀ c ∈ Text.lastLine before, Text.isMargin c = true) ∧
      first + (Text.lastLine before).length = o + before.length := by
  obtain ⟨init, hinit⟩ := Text.exists_eq_append_lastLine hnl
  have hlen := congrArg List.length hinit
  rw [List.length_append, List.length_cons] at hlen
  have hget : ∀ j, source[o + j]? = (before ++ rest)[j]? := by
    intro j
    rw [← hsource, List.getElem?_drop]
  have hnewline : source[o + init.length]? = some '\n' := by
    rw [hget, hinit, List.append_assoc, List.getElem?_append_right (Nat.le_refl _)]
    simp
  have hdrop : source.drop (o + init.length + 1) = Text.lastLine before ++ rest := by
    rw [Nat.add_assoc, ← List.drop_drop, hsource, hinit]
    simp [Text.lastLine_append_newline, Text.lastLine_eq_self (Text.newline_not_mem_lastLine _)]
  have hslice : Text.slice source (o + init.length + 1) (o + before.length) =
      Text.lastLine before := Text.slice_eq_of_drop hdrop (by omega)
  constructor
  · rintro ⟨hstart, hle, hall⟩
    have hfirst : first = o + init.length + 1 := by
      rcases Nat.lt_trichotomy first (o + init.length + 1) with hlt | heq | hgt
      · have := hall '\n' (Text.mem_slice_iff.2 ⟨_, by omega, by omega, hnewline⟩)
        rw [Text.isMargin_newline] at this
        simp at this
      · exact heq
      · obtain ⟨j, rfl⟩ : ∃ j, first = j + 1 := ⟨first - 1, by omega⟩
        refine absurd ?_ (Text.newline_not_mem_lastLine before)
        rw [← hslice]
        exact Text.mem_slice_iff.2 ⟨j, by omega, by omega, hstart j rfl⟩
    rw [hfirst, hslice] at hall
    exact ⟨hall, by omega⟩
  · rintro ⟨hall, hsum⟩
    obtain rfl : first = o + init.length + 1 := by omega
    refine ⟨fun j hj => ?_, by omega, by rwa [hslice]⟩
    obtain rfl : j = o + init.length := by omega
    exact hnewline

/-- A stretch of blanks without a newline behind the start of a line starts there. -/
theorem eq_of_lineStart {source : List Char} {first o stop : Nat} (hfirst : LineStart source first)
    (ho : LineStart source o) (hf : first ≤ stop) (hstop : o ≤ stop)
    (hblank : ∀ c ∈ Text.slice source first stop, Text.isMargin c = true)
    (hnl : '\n' ∉ Text.slice source o stop) : first = o := by
  rcases Nat.lt_trichotomy first o with hlt | heq | hgt
  · obtain ⟨j, rfl⟩ : ∃ j, o = j + 1 := ⟨o - 1, by omega⟩
    have := hblank '\n' (Text.mem_slice_iff.2 ⟨j, by omega, by omega, ho j rfl⟩)
    rw [Text.isMargin_newline] at this
    simp at this
  · exact heq
  · obtain ⟨j, rfl⟩ : ∃ j, first = j + 1 := ⟨first - 1, by omega⟩
    exact absurd (Text.mem_slice_iff.2 ⟨j, by omega, by omega, hfirst j rfl⟩) hnl

/-- The blanks behind a tag and the ending of its line, as a slice of the source. -/
theorem trailing_iff {source rest : List Char} {stop : Nat} (hrest : source.drop stop = rest)
    (hlen : source.length = stop + rest.length) (last : Nat) :
    (stop ≤ last ∧ last ≤ source.length ∧ ∃ blanks ending : List Char,
      Text.slice source stop last = blanks ++ ending ∧ (∀ c ∈ blanks, Text.isMargin c = true) ∧
      (ending = ['\n'] ∨ ending = ['\r', '\n'] ∨ ending = [] ∧ last = source.length)) ↔
    ∃ dropped left, lineRest? rest = some (dropped, left) ∧ last = stop + dropped.length := by
  constructor
  · rintro ⟨hle, hlast, blanks, ending, hslice, hall, hend⟩
    have hsplit := Text.drop_eq_slice_append source hle
    refine ⟨_, source.drop last, lineRest?_eq_some_iff.2 ⟨blanks, ending, hall, hslice,
      hrest.symm.trans hsplit, ?_⟩, ?_⟩
    · rcases hend with h | h | ⟨h, rfl⟩
      · exact .inl h
      · exact .inr (.inl h)
      · exact .inr (.inr ⟨h, List.drop_length⟩)
    · rw [Text.length_slice hlast]
      omega
  · rintro ⟨dropped, left, hline, rfl⟩
    obtain ⟨blanks, ending, hall, hdropped, heq, hend⟩ := lineRest?_eq_some_iff.1 hline
    have hlen' := congrArg List.length heq
    rw [List.length_append] at hlen'
    refine ⟨by omega, by omega, blanks, ending, ?_, hall, ?_⟩
    · rw [Text.slice_eq_of_drop (hrest.trans heq) rfl, hdropped]
    · rcases hend with h | h | ⟨h, rfl⟩
      · exact .inl h
      · exact .inr (.inl h)
      · exact .inr (.inr ⟨h, by simp only [List.length_nil] at hlen'; omega⟩)

section Step

variable {source text before body : List Char} {all tokens : List Token} {floor p : Nat}
  {d changed : Delimiters} {pos : Position} {tag : Tag}

/-- A tag among some tokens. -/
theorem mem_tagsOf_iff {u : Token} : u ∈ tagsOf tokens ↔ u ∈ tokens ∧ u.kind ≠ .text := by
  simp [tagsOf]

/-- The tag that is read is one of the tags. -/
theorem Resumes.tagToken_mem {margins : Option Margins}
    (h : Resumes source all floor pos (tagTokens d pos before tag margins ++ tokens))
    (hk : tag.kind ≠ .text) : tagToken d pos before tag margins ∈ tagsOf all :=
  mem_tagsOf_iff.2 ⟨h.mem _ (by simp [tagTokens_eq]), hk⟩

/-- A tag that does not begin before the position is the one that is read, or still to come. -/
theorem Resumes.eq_or_mem {margins : Option Margins}
    (h : Resumes source all floor pos (tagTokens d pos before tag margins ++ tokens))
    (hk : tag.kind ≠ .text) {u : Token} (hu : u ∈ tagsOf all) (hle : pos.offset ≤ u.start) :
    u = tagToken d pos before tag margins ∨ u ∈ tokens := by
  have hstep : u ∈ tagsOf (tagTokens d pos before tag margins ++ tokens) :=
    mem_tagsOf_iff.2 ⟨h.later u hu hle, (mem_tagsOf_iff.1 hu).2⟩
  rw [tagsOf_step hk, List.mem_cons] at hstep
  exact hstep.imp_right fun hu' => (mem_tagsOf_iff.1 hu').1

/-- The tags that begin before the one that is read end at the floor or before. -/
theorem Resumes.earlier_tag {margins : Option Margins}
    (h : Resumes source all floor pos (tagTokens d pos before tag margins ++ tokens))
    (hk : tag.kind ≠ .text)
    (hnext : ∀ u ∈ tokens, (tagToken d pos before tag margins).start ≤ u.start) (x : Nat) :
    (∀ u ∈ tagsOf all, u.start < (tagToken d pos before tag margins).start → u.stop ≤ x) ↔
      floor ≤ x := by
  rw [← h.earlier x, start_tagToken]
  refine forall₂_congr fun u hu => ⟨fun himp hlt => himp (by omega), fun himp hlt => ?_⟩
  by_cases hpos : u.start < pos.offset
  · exact himp hpos
  · exfalso
    rw [← start_tagToken d pos before tag margins] at hlt
    rcases h.eq_or_mem hk hu (by omega) with rfl | hmem
    · exact Nat.lt_irrefl _ hlt
    · exact Nat.not_lt.2 (hnext u hmem) hlt

/-- What stands in front of a tag on its line, by the lines of the source and by the text since the
previous tag. -/
theorem Resumes.leading_iff (h : Resumes source all floor pos tokens)
    (hsource : source.drop pos.offset = text)
    (found : Text.cut? d.opening.toList text = some (before, body)) (hd : d.IsPlain) (first : Nat) :
    (LineStart source first ∧ first ≤ pos.offset + before.length ∧
      (∀ c ∈ Text.slice source first (pos.offset + before.length), Text.isMargin c = true) ∧
      floor ≤ first) ↔
    ((pos.column == 0) = true ∨ '\n' ∈ before) ∧
      (∀ c ∈ Text.lastLine before, Text.isMargin c = true) ∧
      first + (Text.lastLine before).length = pos.offset + before.length := by
  have hsplit := hsource.trans (Text.eq_append_of_cut?_eq_some found)
  rw [List.append_assoc] at hsplit
  have hfloor := h.floor_le
  by_cases hnl : '\n' ∈ before
  · have hiff := lineStart_iff_of_newline hsplit hnl first
    have hlast := (Text.lastLine_suffix before).length_le
    constructor
    · rintro ⟨h1, h2, h3, -⟩
      exact ⟨.inr hnl, hiff.1 ⟨h1, h2, h3⟩⟩
    · rintro ⟨-, h1, h2⟩
      obtain ⟨h3, h4, h5⟩ := hiff.2 ⟨h1, h2⟩
      exact ⟨h3, h4, h5, by omega⟩
  · have hslice : Text.slice source pos.offset (pos.offset + before.length) = before :=
      Text.slice_eq_of_drop hsplit rfl
    rw [Text.lastLine_eq_self hnl]
    constructor
    · rintro ⟨hfirst, hle, hall, hfl⟩
      have hle' : first ≤ pos.offset := by
        by_contra hgt
        obtain ⟨j, rfl⟩ : ∃ j, first = j + 1 := ⟨first - 1, by omega⟩
        refine hnl (hslice ▸ ?_)
        exact Text.mem_slice_iff.2 ⟨j, by omega, by omega, hfirst j rfl⟩
      have hpos : LineStart source pos.offset := by
        rcases h.margin with heq | hline | hend
        · obtain rfl : first = pos.offset := by omega
          exact hfirst
        · exact hline
        · rw [hend, List.drop_length] at hsplit
          have := congrArg List.length hsplit
          have hopening := List.length_pos_iff.2 hd.opening.1
          simp only [List.length_nil, List.length_append] at this
          omega
      obtain rfl := eq_of_lineStart hfirst hpos hle (by omega) hall (by rwa [hslice])
      rw [hslice] at hall
      exact ⟨.inl (beq_iff_eq.2 (h.column_eq_zero_iff.2 hpos)), hall, rfl⟩
    · rintro ⟨hfresh, hall, hsum⟩
      obtain rfl : first = pos.offset := by omega
      have hcolumn := beq_iff_eq.1 (hfresh.resolve_right hnl)
      exact ⟨h.column_eq_zero_iff.1 hcolumn, by omega, by rwa [hslice], hfloor⟩

/-- **The decision of the scanner agrees with the lines of the source.** The tag that is read has
its line to itself exactly if margins are found for it, and they reach as far.

**Proof sketch.** The start of the line of the tag lies behind the position exactly if there is a
newline in front of the tag, and at the position exactly if the column is zero; and no earlier tag
ends behind the start of the line exactly if it is one of these two. -/
theorem Resumes.standsAlone_iff
    (h : Resumes source all floor pos
      (tagTokens d pos before tag (marginsOf pos before tag) ++ tokens))
    (hsource : source.drop pos.offset = text)
    (found : Text.cut? d.opening.toList text = some (before, body))
    (read : readTag d body = .ok tag) (hd : d.IsPlain)
    (hnext : ∀ u ∈ tokens,
      (tagToken d pos before tag (marginsOf pos before tag)).start ≤ u.start) {first last : Nat} :
    StandsAlone source all (tagToken d pos before tag (marginsOf pos before tag)) first last ↔
      ∃ m, marginsOf pos before tag = some m ∧
        first + m.before.length = (tagToken d pos before tag (marginsOf pos before tag)).start ∧
        last = (tagToken d pos before tag (marginsOf pos before tag)).stop + m.after.length := by
  have hkind := kind_ne_text_of_readTag read
  have hearlier := h.earlier_tag hkind hnext first
  have hleading := h.leading_iff hsource found hd first
  have htrailing := trailing_iff (drop_stop_tagToken hsource found read (marginsOf pos before tag))
    (length_eq_stop_tagToken_add hsource found read hd.opening.1 _) last
  rw [← start_tagToken d pos before tag (marginsOf pos before tag)] at hleading
  constructor
  · intro hs
    obtain ⟨hline, hblank, hsum⟩ := hleading.1
      ⟨hs.lineStart, hs.first_le, hs.leading, hearlier.1 hs.alone⟩
    obtain ⟨dropped, left, hrest, hlast⟩ := htrailing.1 ⟨hs.le_last, hs.last_le, hs.trailing⟩
    exact ⟨⟨_, dropped, left⟩, standalone?_eq_some_iff.2 ⟨hs.kind, hline, rfl, hblank, hrest⟩,
      hsum, hlast⟩
  · rintro ⟨m, hm, hfirst, hlast⟩
    obtain ⟨hk, hline, hbefore, hblank, hrest⟩ := standalone?_eq_some_iff.1 hm
    rw [hbefore] at hblank hfirst
    obtain ⟨h1, h2, h3, h4⟩ := hleading.2 ⟨hline, hblank, hfirst⟩
    obtain ⟨h5, h6, h7⟩ := htrailing.2 ⟨_, _, hrest, hlast⟩
    exact ⟨h.tagToken_mem hkind, hk, h1, h2, h3, hearlier.2 h4, h5, h6, h7⟩

/-- Behind the margin of a tag a line starts, or the source ends. -/
theorem margin_droppedAfter (hrest : source.drop p = tag.rest)
    (hlen : source.length = p + tag.rest.length) :
    droppedAfter (marginsOf pos before tag) = [] ∨
      LineStart source (p + (droppedAfter (marginsOf pos before tag)).length) ∨
      p + (droppedAfter (marginsOf pos before tag)).length = source.length := by
  unfold droppedAfter
  cases hm : marginsOf pos before tag with
  | none => exact .inl rfl
  | some m =>
    obtain ⟨-, -, -, -, hline⟩ := standalone?_eq_some_iff.1 hm
    obtain ⟨blanks, ending, -, hafter, heq, hend⟩ := lineRest?_eq_some_iff.1 hline
    have hget : ∀ j, source[p + j]? = (blanks ++ ending ++ m.rest)[j]? := by
      intro j
      rw [← hafter, ← heq, ← hrest, List.getElem?_drop]
    simp only [Option.map_some, Option.getD_some, hafter, List.length_append]
    rcases hend with rfl | rfl | ⟨rfl, hleft⟩
    · refine .inr (.inl fun j hj => ?_)
      obtain rfl : j = p + blanks.length := by simp at hj; omega
      rw [hget]
      simp
    · refine .inr (.inl fun j hj => ?_)
      obtain rfl : j = p + (blanks.length + 1) := by simp at hj; omega
      rw [hget]
      simp
    · have := congrArg List.length heq
      simp only [hafter, hleft, List.length_append, List.length_nil] at this
      exact .inr (.inr (by simp; omega))

/-- The position behind a tag is what the source up to there leads to. -/
theorem positionAfter_eq_advance (hpos : pos = Position.start.advance (source.take pos.offset))
    (hsource : source.drop pos.offset = text)
    (found : Text.cut? d.opening.toList text = some (before, body))
    (read : readTag d body = .ok tag) :
    positionAfter d pos before tag (marginsOf pos before tag) = Position.start.advance
      (source.take (positionAfter d pos before tag (marginsOf pos before tag)).offset) := by
  have hsplit := hsource.trans (eq_append_of_readTag found read)
  rw [rest_eq_append_restAfter pos before tag] at hsplit
  have htake : source.take (positionAfter d pos before tag (marginsOf pos before tag)).offset =
      source.take pos.offset ++ (before ++ (d.opening.toList ++ tag.consumed ++
        droppedAfter (marginsOf pos before tag))) := by
    rw [offset_positionAfter, stop_tagToken, Nat.add_assoc, Nat.add_assoc, Nat.add_assoc,
      List.take_add, hsplit]
    congr 1
    rw [← List.append_assoc, List.take_left']
    · simp only [List.append_assoc]
    · simp only [List.length_append]
      omega
  rw [htake, Position.advance_append, ← hpos, Position.advance_append]
  rfl

/-- **A step leads to such a position again**, behind the tag that is read. -/
theorem Resumes.next
    (h : Resumes source all floor pos
      (tagTokens d pos before tag (marginsOf pos before tag) ++ tokens))
    (hsource : source.drop pos.offset = text)
    (found : Text.cut? d.opening.toList text = some (before, body))
    (read : readTag d body = .ok tag) (hd : d.IsPlain)
    (hnext : ∀ u ∈ tokens,
      (positionAfter d pos before tag (marginsOf pos before tag)).offset ≤ u.start) :
    Resumes source all (tagToken d pos before tag (marginsOf pos before tag)).stop
      (positionAfter d pos before tag (marginsOf pos before tag)) tokens := by
  have hkind := kind_ne_text_of_readTag read
  have hafter := offset_positionAfter d pos before tag (marginsOf pos before tag)
  have hrest := drop_stop_tagToken hsource found read (marginsOf pos before tag)
  have hlen :=
    length_eq_stop_tagToken_add hsource found read hd.opening.1 (marginsOf pos before tag)
  have hdropped := congrArg List.length (rest_eq_append_restAfter pos before tag)
  rw [List.length_append] at hdropped
  have hopening := List.length_pos_iff.2 hd.opening.1
  have hstart := start_tagToken d pos before tag (marginsOf pos before tag)
  have hstop := stop_tagToken d pos before tag (marginsOf pos before tag)
  have hfloor := h.floor_le
  refine ⟨positionAfter_eq_advance h.position hsource found read, by omega, by omega, ?_,
    fun x => ⟨fun himp => ?_, fun hx u hu hlt => ?_⟩, fun u hu hle => ?_,
    fun u hu => h.mem u (List.mem_append_right _ hu)⟩
  · rw [hafter]
    refine (margin_droppedAfter hrest hlen).imp (fun hnil => ?_) id
    rw [hnil]
    rfl
  · exact himp _ (h.tagToken_mem hkind) (by omega)
  · by_cases hpos : u.start < pos.offset
    · have hend := (h.earlier floor).2 (Nat.le_refl _) u hu hpos
      omega
    · rcases h.eq_or_mem hkind hu (by omega) with rfl | hmem
      · exact hx
      · have hle := hnext u hmem
        omega
  · rcases h.eq_or_mem hkind hu (by omega) with rfl | hmem
    · omega
    · exact hmem

/-- Where the margins of the tag that is read lie. -/
theorem Resumes.inMargin_iff
    (h : Resumes source all floor pos
      (tagTokens d pos before tag (marginsOf pos before tag) ++ tokens))
    (hsource : source.drop pos.offset = text)
    (found : Text.cut? d.opening.toList text = some (before, body))
    (read : readTag d body = .ok tag) (hd : d.IsPlain)
    (hnext : ∀ u ∈ tokens,
      (tagToken d pos before tag (marginsOf pos before tag)).start ≤ u.start) (i : Nat) :
    (∃ first last,
      StandsAlone source all (tagToken d pos before tag (marginsOf pos before tag)) first last ∧
        InMargin (tagToken d pos before tag (marginsOf pos before tag)) first last i) ↔
    pos.offset + (keptBefore before (marginsOf pos before tag)).length ≤ i ∧
        i < (tagToken d pos before tag (marginsOf pos before tag)).start ∨
      (tagToken d pos before tag (marginsOf pos before tag)).stop ≤ i ∧
        i < (positionAfter d pos before tag (marginsOf pos before tag)).offset := by
  have hiff := @Resumes.standsAlone_iff _ _ _ _ _ _ _ _ _ _ h hsource found read hd hnext
  have hkept := congrArg List.length (keptBefore_append_droppedBefore pos before tag)
  have hafter := offset_positionAfter d pos before tag (marginsOf pos before tag)
  have hstart := start_tagToken d pos before tag (marginsOf pos before tag)
  rw [List.length_append] at hkept
  simp only [hiff]
  unfold InMargin
  cases hm : marginsOf pos before tag with
  | none =>
    rw [hm] at hkept hafter hstart
    simp only [droppedBefore, droppedAfter, Option.map_none, Option.getD_none,
      List.length_nil] at hkept hafter
    constructor
    · rintro ⟨first, last, ⟨m, hm', -⟩, -⟩
      simp at hm'
    · omega
  | some m =>
    rw [hm] at hkept hafter hstart
    simp only [droppedBefore, droppedAfter, Option.map_some, Option.getD_some] at hkept hafter
    constructor
    · rintro ⟨first, last, ⟨m', hm', hfirst, hlast⟩, hin⟩
      obtain rfl := Option.some.inj hm'
      omega
    · intro hin
      exact ⟨pos.offset + (keptBefore before (some m)).length, _, ⟨m, rfl, by omega, rfl⟩, by omega⟩

end Step

/-! ## What is left out -/

/-- An offset that a stretch of text does not cover. -/
theorem uncovered_textToken_iff {d : Delimiters} {pos : Position} {cs : List Char} {i : Nat} :
    Uncovered (textToken d pos cs) i ↔ ¬ (pos.offset ≤ i ∧ i < pos.offset + cs.length) := by
  unfold Uncovered
  constructor
  · intro h hin
    refine h _ (mem_textToken_iff.2 ⟨?_, rfl⟩) hin
    rintro rfl
    simp only [List.length_nil] at hin
    omega
  · intro h t ht
    obtain ⟨-, rfl⟩ := mem_textToken_iff.1 ht
    exact h

/-- What the tokens of a step leave out. -/
theorem uncovered_tagTokens_iff {tokens : List Token} {d : Delimiters} {pos : Position}
    {before : List Char} {tag : Tag} {margins : Option Margins} {i : Nat} :
    Uncovered (tagTokens d pos before tag margins ++ tokens) i ↔
      ¬ (pos.offset ≤ i ∧ i < pos.offset + (keptBefore before margins).length) ∧
      ¬ ((tagToken d pos before tag margins).start ≤ i ∧
        i < (tagToken d pos before tag margins).stop) ∧
      Uncovered tokens i := by
  rw [tagTokens_eq, ← uncovered_textToken_iff (d := d)]
  unfold Uncovered
  simp only [List.mem_append, List.mem_singleton, or_imp, forall_and, forall_eq, and_assoc]

/-- An offset in a margin of a step is in one of the tag that is read, or of one that follows. -/
theorem exists_inMargin_step_iff {source : List Char} {all tokens : List Token} {d : Delimiters}
    {pos : Position} {before : List Char} {tag : Tag} {margins : Option Margins} {i : Nat} :
    (∃ t ∈ tagTokens d pos before tag margins ++ tokens, ∃ first last,
      StandsAlone source all t first last ∧ InMargin t first last i) ↔
    (∃ first last, StandsAlone source all (tagToken d pos before tag margins) first last ∧
      InMargin (tagToken d pos before tag margins) first last i) ∨
    ∃ t ∈ tokens, ∃ first last, StandsAlone source all t first last ∧
      InMargin t first last i := by
  rw [tagTokens_eq]
  constructor
  · rintro ⟨t, ht, hex⟩
    rw [List.mem_append, List.mem_append, List.mem_singleton] at ht
    rcases ht with (ht | rfl) | ht
    · obtain ⟨-, rfl⟩ := mem_textToken_iff.1 ht
      obtain ⟨first, last, hs, -⟩ := hex
      exact absurd rfl (mem_tagsOf_iff.1 hs.isTag).2
    · exact .inl hex
    · exact .inr ⟨t, ht, hex⟩
  · rintro (hex | ⟨t, ht, hex⟩)
    · exact ⟨_, by simp, hex⟩
    · exact ⟨t, List.mem_append_right _ ht, hex⟩

/-- The line of a tag that has it to itself starts behind the tags before. -/
theorem Resumes.stop_le_of_standsAlone {source before : List Char} {all tokens : List Token}
    {floor : Nat} {d : Delimiters} {pos : Position} {tag : Tag} {margins : Option Margins}
    (h : Resumes source all floor pos (tagTokens d pos before tag margins ++ tokens))
    (hk : tag.kind ≠ .text) {t : Token} {first last : Nat}
    (hs : StandsAlone source all t first last)
    (hlt : (tagToken d pos before tag margins).start < t.start) :
    (tagToken d pos before tag margins).stop ≤ first :=
  hs.alone _ (h.tagToken_mem hk) hlt

/-- **What a run leaves out** are the margins of its tags.

**Proof sketch.** Induction on the run. In front of the next position the tokens of the step leave
out the margins of the tag that is read, and no margin of a later tag reaches back across that
tag; from there on the induction hypothesis applies. -/
theorem Scanned.uncovered_iff {source text : List Char} {all tokens : List Token} {floor : Nat}
    {d : Delimiters} {pos : Position} (h : Scanned d pos text tokens)
    (hsource : source.drop pos.offset = text) (hd : d.IsPlain)
    (hres : Resumes source all floor pos tokens) {i : Nat} (hi : pos.offset ≤ i)
    (hlt : i < source.length) :
    Uncovered tokens i ↔ ∃ t ∈ tokens, ∃ first last, StandsAlone source all t first last ∧
      InMargin t first last i := by
  induction h generalizing floor with
  | @last d pos text hfound =>
    have hlen := congrArg List.length hsource
    rw [List.length_drop] at hlen
    rw [uncovered_textToken_iff]
    constructor
    · exact fun hun => absurd ⟨hi, by omega⟩ hun
    · rintro ⟨t, ht, first, last, hs, -⟩
      obtain ⟨-, rfl⟩ := mem_textToken_iff.1 ht
      exact absurd rfl (mem_tagsOf_iff.1 hs.isTag).2
  | @tag d changed pos text before body tag tokens hfound hread hchange hrest ih =>
    have hdrop := drop_offset_positionAfter hsource hfound hread
    have hchanged := Delimiters.isPlain_of_delimsAfter hchange hd
    have hbounds := (hrest.ordered hdrop hchanged).1
    have hafter := offset_positionAfter d pos before tag (marginsOf pos before tag)
    have hstart := start_tagToken d pos before tag (marginsOf pos before tag)
    have hstop := stop_tagToken d pos before tag (marginsOf pos before tag)
    have hkept := congrArg List.length (keptBefore_append_droppedBefore pos before tag)
    rw [List.length_append] at hkept
    have hopening := List.length_pos_iff.2 hd.opening.1
    have hkind := kind_ne_text_of_readTag hread
    have hmargin := hres.inMargin_iff hsource hfound hread hd
      (fun u hu => by have := (hbounds u hu).1; omega) i
    rw [uncovered_tagTokens_iff, exists_inMargin_step_iff, hmargin]
    by_cases hi' : (positionAfter d pos before tag (marginsOf pos before tag)).offset ≤ i
    · have hnext := hres.next hsource hfound hread hd fun u hu => (hbounds u hu).1
      rw [← ih hdrop hchanged hnext hi']
      constructor
      · exact fun hun => .inr hun.2.2
      · rintro (hin | hun)
        · omega
        · exact ⟨by omega, by omega, hun⟩
    · have hun : Uncovered tokens i := by
        intro t ht hin
        have := (hbounds t ht).1
        omega
      constructor
      · rintro ⟨h1, h2, -⟩
        exact .inl (by omega)
      · rintro (hin | ⟨t, ht, first, last, hs, hin⟩)
        · exact ⟨by omega, by omega, hun⟩
        · -- no margin of a later tag reaches back across the tag that is read
          obtain ⟨hnext, hfits⟩ := hbounds t ht
          have hfirst := hres.stop_le_of_standsAlone hkind hs (by omega)
          have hnonempty := hfits.start_lt_stop
          unfold InMargin at hin
          exact ⟨by omega, by omega, hun⟩

/-- The indent of a token: for an inclusion the blanks that are dropped in front of it, and nothing
for every other token. -/
structure Token.IndentIn (source : List Char) (tokens : List Token) (t : Token) : Prop where
  dropped : t.kind = .inclusion → ∀ first last, StandsAlone source tokens t first last →
    t.indent = String.ofList (Text.slice source first t.start)
  inline : t.kind = .inclusion → (∀ first last, ¬ StandsAlone source tokens t first last) →
    t.indent = ""
  other : t.kind ≠ .inclusion → t.indent = ""

/-- The tag that is read carries its indent. -/
theorem Resumes.indentIn_tagToken {source text before body : List Char} {all tokens : List Token}
    {floor : Nat} {d : Delimiters} {pos : Position} {tag : Tag}
    (h : Resumes source all floor pos
      (tagTokens d pos before tag (marginsOf pos before tag) ++ tokens))
    (hsource : source.drop pos.offset = text)
    (found : Text.cut? d.opening.toList text = some (before, body))
    (read : readTag d body = .ok tag) (hd : d.IsPlain)
    (hnext : ∀ u ∈ tokens,
      (tagToken d pos before tag (marginsOf pos before tag)).start ≤ u.start) :
    (tagToken d pos before tag (marginsOf pos before tag)).IndentIn source all := by
  have hiff := @Resumes.standsAlone_iff _ _ _ _ _ _ _ _ _ _ h hsource found read hd hnext
  have hkept := keptBefore_append_droppedBefore pos before tag
  have hlen := congrArg List.length hkept
  rw [List.length_append] at hlen
  have hstart := start_tagToken d pos before tag (marginsOf pos before tag)
  refine ⟨fun hk first last hs => ?_, fun hk hno => ?_, fun hk => if_neg (by simpa using hk)⟩
  · obtain ⟨m, hm, hfirst, -⟩ := hiff.1 hs
    have hdropped : droppedBefore (marginsOf pos before tag) = m.before := by
      rw [hm]
      rfl
    rw [hdropped] at hlen
    have hdrop : source.drop first = m.before ++ (d.opening.toList ++ body) := by
      obtain rfl : first = pos.offset + (keptBefore before (marginsOf pos before tag)).length := by
        omega
      have hsplit := hsource.trans (Text.eq_append_of_cut?_eq_some found)
      rw [← hkept, List.append_assoc, List.append_assoc] at hsplit
      rw [← List.drop_drop, hsplit, List.drop_left, hdropped]
    rw [Text.slice_eq_of_drop hdrop (by omega), ← hdropped]
    exact if_pos (by simpa using hk)
  · cases hm : marginsOf pos before tag with
    | none => simp [tagToken, droppedBefore]
    | some m =>
      rw [hm] at hlen
      simp only [droppedBefore, Option.map_some, Option.getD_some] at hlen
      refine absurd (hiff.2 ⟨m, hm, ?_, rfl⟩)
        (hno (pos.offset + (keptBefore before (some m)).length) _)
      omega

/-- **The tokens of a run carry their indents.** -/
theorem Scanned.indentIn {source text : List Char} {all tokens : List Token} {floor : Nat}
    {d : Delimiters} {pos : Position} (h : Scanned d pos text tokens)
    (hsource : source.drop pos.offset = text) (hd : d.IsPlain)
    (hres : Resumes source all floor pos tokens) : ∀ t ∈ tokens, t.IndentIn source all := by
  induction h generalizing floor with
  | last hfound =>
    intro t ht
    obtain ⟨-, rfl⟩ := mem_textToken_iff.1 ht
    exact ⟨nofun, nofun, fun _ => rfl⟩
  | @tag d changed pos text before body tag tokens hfound hread hchange hrest ih =>
    have hdrop := drop_offset_positionAfter hsource hfound hread
    have hchanged := Delimiters.isPlain_of_delimsAfter hchange hd
    have hbounds := (hrest.ordered hdrop hchanged).1
    have hafter := offset_positionAfter d pos before tag (marginsOf pos before tag)
    have hstart := start_tagToken d pos before tag (marginsOf pos before tag)
    have hstop := stop_tagToken d pos before tag (marginsOf pos before tag)
    have hnext := hres.next hsource hfound hread hd fun u hu => (hbounds u hu).1
    intro t ht
    rcases mem_tagTokens_append_iff.1 ht with ht | rfl | ht
    · obtain ⟨-, rfl⟩ := mem_textToken_iff.1 ht
      exact ⟨nofun, nofun, fun _ => rfl⟩
    · refine hres.indentIn_tagToken hsource hfound hread hd fun u hu => ?_
      have hle := (hbounds u hu).1
      omega
    · exact ih hdrop hchanged hnext t ht

/-- The start of a source is such a position. -/
theorem resumes_start (source : List Char) (tokens : List Token) :
    Resumes source tokens 0 .start tokens := by
  refine ⟨rfl, Nat.le_refl _, Nat.zero_le _, .inl rfl, fun x => ⟨fun _ => Nat.zero_le x, ?_⟩,
    fun u hu _ => (mem_tagsOf_iff.1 hu).1, fun u hu => hu⟩
  exact fun _ u _ hlt => absurd hlt (Nat.not_lt_zero _)

/-- **What no token covers is the margin of a tag that has its line to itself**, all of its margins
and nothing around any other tag; and an inclusion keeps the blanks that are dropped in front of
it as its indent. -/
theorem uncovered_iff_margin {source : String} {name : Value} {tokens : List Token}
    (h : tokenize source name .usual = .ok tokens) :
    (∀ i < source.length, Uncovered tokens i ↔ ∃ t ∈ tokens, ∃ first last,
      StandsAlone source.toList tokens t first last ∧ InMargin t first last i) ∧
    ∀ t ∈ tokens, t.IndentIn source.toList tokens := by
  have hrun := tokenize_eq_ok_iff.1 h
  have hres := resumes_start source.toList tokens
  refine ⟨fun i hi => ?_, hrun.indentIn rfl Delimiters.isPlain_usual hres⟩
  have hlt : i < source.toList.length := by rwa [String.length_toList]
  exact hrun.uncovered_iff rfl Delimiters.isPlain_usual hres (Nat.zero_le i) hlt

/-- A section tag with its line to itself, and an inclusion at the end of the source: the blanks
beside the first one and the ending of its line are dropped, and the tab before the second one. -/
theorem uncovered_iff_margin_inclusion : ∃ source tokens,
    source = "a\n \x7b\x7b#b\x7d\x7d \r\n\t\x7b\x7b>c\x7d\x7d" ∧
    tokenize source .null .usual = .ok tokens ∧
    tokens = [⟨.text, "a\n", ⟨1, 0⟩, 0, 2, .usual, ""⟩,
      ⟨.sectionStart, "b", ⟨2, 1⟩, 3, 9, .usual, ""⟩,
      ⟨.inclusion, "c", ⟨3, 1⟩, 13, 19, .usual, "\t"⟩] ∧
    (∀ i < source.length, Uncovered tokens i ↔ i ∈ [2, 9, 10, 11, 12]) ∧
    (∀ i < source.length, Uncovered tokens i ↔ ∃ t ∈ tokens, ∃ first last,
      StandsAlone source.toList tokens t first last ∧ InMargin t first last i) ∧
    ∀ t ∈ tokens, t.IndentIn source.toList tokens := by
  have htokens : tokenize "a\n \x7b\x7b#b\x7d\x7d \r\n\t\x7b\x7b>c\x7d\x7d" .null .usual =
      .ok [⟨.text, "a\n", ⟨1, 0⟩, 0, 2, .usual, ""⟩,
        ⟨.sectionStart, "b", ⟨2, 1⟩, 3, 9, .usual, ""⟩,
        ⟨.inclusion, "c", ⟨3, 1⟩, 13, 19, .usual, "\t"⟩] :=
    eq_ok_of_toOption_eq_some (by decide +kernel)
  refine ⟨_, _, rfl, htokens, rfl, ?_, uncovered_iff_margin htokens⟩
  intro i hi
  have hlt : i < 19 := hi
  simp only [Uncovered, List.mem_cons, List.not_mem_nil, or_false, forall_eq_or_imp, forall_eq]
  omega

end Mustache
