import Mustache.Proofs.Token.Found
import Mustache.Proofs.Token.Machine
import Mustache.Proofs.Token.Margins

/-!
# The scanner terminates

The scanner that steps through a source by offsets takes the same tags from it as the one that
walks through the characters, and so it tells when that one ends and how far it has come.

## Main results

* `Mustache.Scanner.alone?_tagToken` — by the lines of the source a tag has the margins that it has
  by the text around it.
* `Mustache.Scanner.exists_iterate_eq_ended` — the steps from one tag to the end of the source lead
  to the tokens of the scanner.
* `Mustache.tokenize_terminates` — the scanner ends under any delimiters.
-/

namespace Mustache

namespace Scanner

/-! ## Lines by offsets -/

section Offsets

variable {source before rest : List Char} {pos : Position}

/-- The position behind some more text. -/
theorem positionAt_add {i : Nat} (hsource : source.drop i = before ++ rest) :
    positionAt source (i + before.length) = (positionAt source i).advance before := by
  rw [positionAt, List.take_add, hsource, List.take_left, Position.advance_append]
  rfl

/-- A position of a source lies in it. -/
theorem offset_le_of_eq_positionAt (hpos : pos = positionAt source pos.offset) :
    pos.offset ≤ source.length := by
  have h := congrArg Position.offset hpos
  rw [positionAt, Position.offset_advance, List.length_take] at h
  have hstart : Position.start.offset = 0 := rfl
  omega

/-- The column of a position counts what is in front of it on its line. -/
theorem column_eq_of_eq_positionAt (hpos : pos = positionAt source pos.offset) :
    pos.column = (Text.lastLine (source.take pos.offset)).length := by
  have h := congrArg Position.column hpos
  rwa [positionAt, Position.advance_start] at h

/-- What stands on the line in front of an offset. -/
theorem slice_lineStart {i : Nat} (h : i ≤ source.length) :
    Text.slice source (lineStart source i) i = Text.lastLine (source.take i) := by
  obtain ⟨init, hinit⟩ := Text.lastLine_suffix (source.take i)
  have hlen := congrArg List.length hinit
  rw [List.length_append, List.length_take, Nat.min_eq_left h] at hlen
  unfold lineStart Text.slice
  generalize Text.lastLine (source.take i) = line at hinit hlen ⊢
  rw [← hinit, show i - line.length = init.length by omega, List.drop_left]

/-- **A line that begins at a position or behind it**: the position is the start of a line, or a
newline follows. -/
theorem le_lineStart_iff (hpos : pos = positionAt source pos.offset)
    (hsource : source.drop pos.offset = before ++ rest) :
    pos.offset ≤ lineStart source (pos.offset + before.length) ↔
      pos.column = 0 ∨ '\n' ∈ before := by
  have hcolumn := column_eq_of_eq_positionAt hpos
  have hle := (Text.lastLine_suffix (source.take pos.offset)).length_le
  rw [List.length_take] at hle
  unfold lineStart
  rw [List.take_add, hsource, List.take_left]
  by_cases hnl : '\n' ∈ before
  · have hlast := (Text.lastLine_suffix before).length_le
    rw [Text.lastLine_append_of_newline_mem _ hnl]
    simp only [hnl, or_true, iff_true]
    omega
  · rw [Text.lastLine_append_of_newline_not_mem _ hnl, List.length_append]
    simp only [hnl, or_false]
    omega

/-- Such a line has nothing in front of the position. -/
theorem lastLine_take_add (hpos : pos = positionAt source pos.offset)
    (hsource : source.drop pos.offset = before ++ rest) (h : pos.column = 0 ∨ '\n' ∈ before) :
    Text.lastLine (source.take (pos.offset + before.length)) = Text.lastLine before := by
  rw [List.take_add, hsource, List.take_left]
  by_cases hnl : '\n' ∈ before
  · exact Text.lastLine_append_of_newline_mem _ hnl
  · have hcolumn := column_eq_of_eq_positionAt hpos
    rw [h.resolve_right hnl] at hcolumn
    rw [Text.lastLine_append_of_newline_not_mem _ hnl, Text.lastLine_eq_self hnl,
      List.length_eq_zero_iff.1 hcolumn.symm, List.nil_append]

end Offsets

/-! ## Steps around a tag -/

section Step

variable {source text before body : List Char} {d : Delimiters} {pos : Position} {tag : Tag}

/-- The source in front of a tag and behind its opening delimiter. -/
theorem drop_offset_eq_append (hsource : source.drop pos.offset = text)
    (found : Text.cut? d.opening.toList text = some (before, body)) :
    source.drop pos.offset = before ++ (d.opening.toList ++ body) := by
  rw [hsource, Text.eq_append_of_cut?_eq_some found, List.append_assoc]

/-- The position of a tag. -/
theorem positionAt_of_found (hpos : pos = positionAt source pos.offset)
    (hsource : source.drop pos.offset = text)
    (found : Text.cut? d.opening.toList text = some (before, body)) :
    positionAt source (pos.offset + before.length) = pos.advance before := by
  rw [positionAt_add (drop_offset_eq_append hsource found), ← hpos]

/-- **By the lines of the source a tag has the margins** that it has by the text around it. -/
theorem alone?_tagToken (hpos : pos = positionAt source pos.offset)
    (hsource : source.drop pos.offset = text)
    (found : Text.cut? d.opening.toList text = some (before, body))
    (read : readTag d body = .ok tag) :
    alone? source pos.offset (tagToken d pos before tag none) =
      (marginsOf pos before tag).map fun m =>
        (m.before, (tagToken d pos before tag none).stop + m.after.length) := by
  have hsplit := drop_offset_eq_append hsource found
  have hlen := congrArg List.length hsplit
  rw [List.length_drop, List.length_append] at hlen
  have hoffset := offset_le_of_eq_positionAt hpos
  have hline := le_lineStart_iff hpos hsplit
  unfold alone? marginsOf standalone?
  simp only [start_tagToken, kind_tagToken, drop_stop_tagToken hsource found read,
    slice_lineStart (show pos.offset + before.length ≤ source.length by omega)]
  by_cases hfront : pos.column = 0 ∨ '\n' ∈ before
  · have hfresh : (pos.column == 0 || before.contains '\n') = true := by simpa using hfront
    rw [lastLine_take_add hpos hsplit hfront, decide_eq_false (Nat.not_lt.2 (hline.2 hfront)),
      hfresh]
    cases tag.kind.isInterpolation with
    | true => simp
    | false =>
      cases (Text.lastLine before).all Text.isMargin with
      | true =>
        simp only [Bool.or_self, Bool.not_true, Bool.false_eq_true, if_false, if_true,
          Option.map_map]
        rfl
      | false => simp
  · have hfresh : (pos.column == 0 || before.contains '\n') = false := by simpa using hfront
    rw [decide_eq_true (Nat.not_le.1 fun h => hfront (hline.1 h)), hfresh]
    simp

/-- The scanner that looks for the next tag at a position. -/
def seeking (d : Delimiters) (pos : Position) (tokens : List Token) : Scanner :=
  { task := .text, delims := d, offset := pos.offset, pending := pos.offset, tokens }

/-- The scanner that has found an opening delimiter behind `before`. -/
def reading (d : Delimiters) (pos : Position) (before : List Char) (tokens : List Token) :
    Scanner :=
  { task := .tag (pos.offset + before.length), delims := d,
    offset := pos.offset + before.length + d.opening.toList.length, pending := pos.offset, tokens }

/-- The scanner that has read a tag behind `before`. -/
def checking (d : Delimiters) (pos : Position) (before : List Char) (tag : Tag)
    (tokens : List Token) : Scanner :=
  { task := .standalone (tagToken d pos before tag none), delims := d,
    offset := (tagToken d pos before tag none).stop, pending := pos.offset, tokens }

/-- The text from a position on. -/
theorem textBetween_of_drop {rest : List Char} {stop : Nat}
    (hpos : pos = positionAt source pos.offset) (hsource : source.drop pos.offset = before ++ rest)
    (hstop : stop = pos.offset + before.length) :
    textBetween source d pos.offset stop = textToken d pos before := by
  rw [textBetween, ← hpos, Text.slice_eq_of_drop hsource hstop]

/-- Without an opening delimiter the rest of the source is text. -/
theorem step_seeking_of_none (hpos : pos = positionAt source pos.offset)
    (hsource : source.drop pos.offset = text) (found : Text.cut? d.opening.toList text = none)
    (tokens : List Token) :
    (seeking d pos tokens).step source = .ended (.ok (tokens ++ textToken d pos text)) := by
  have hlen := congrArg List.length hsource
  rw [List.length_drop] at hlen
  have hoffset := offset_le_of_eq_positionAt hpos
  have htext := textBetween_of_drop (d := d) hpos (hsource.trans (List.append_nil text).symm)
    (show source.length = _ by omega)
  simp only [step, seeking, scanText, hsource, found, htext]

theorem step_seeking_of_some (hsource : source.drop pos.offset = text)
    (found : Text.cut? d.opening.toList text = some (before, body)) (tokens : List Token) :
    (seeking d pos tokens).step source = .on (reading d pos before tokens) := by
  simp only [step, seeking, scanText, reading, hsource, found]

/-- Behind an opening delimiter the source goes on with what the tag is read from. -/
theorem drop_offset_reading (hsource : source.drop pos.offset = text)
    (found : Text.cut? d.opening.toList text = some (before, body)) (tokens : List Token) :
    source.drop (reading d pos before tokens).offset = body := by
  rw [reading, Nat.add_assoc, ← List.drop_drop, drop_offset_eq_append hsource found,
    ← List.drop_drop, List.drop_left, List.drop_left]

theorem step_reading_of_error {cause : Malformation} (hpos : pos = positionAt source pos.offset)
    (hsource : source.drop pos.offset = text)
    (found : Text.cut? d.opening.toList text = some (before, body))
    (read : readTag d body = .error cause) (tokens : List Token) :
    (reading d pos before tokens).step source = .ended (.error ⟨cause, pos.advance before⟩) := by
  have hspot := positionAt_of_found hpos hsource found
  have hdrop := drop_offset_reading hsource found tokens
  unfold reading at hdrop ⊢
  simp only [step, scanTag, hdrop, read, hspot]

theorem step_reading_of_ok (hpos : pos = positionAt source pos.offset)
    (hsource : source.drop pos.offset = text)
    (found : Text.cut? d.opening.toList text = some (before, body))
    (read : readTag d body = .ok tag) (tokens : List Token) :
    (reading d pos before tokens).step source = .on (checking d pos before tag tokens) := by
  have hspot := positionAt_of_found hpos hsource found
  have hdrop := drop_offset_reading hsource found tokens
  have hindent : (if tag.kind == .inclusion then String.ofList [] else "") = "" := ite_self _
  unfold reading at hdrop ⊢
  simp only [step, scanTag, hdrop, read, hspot]
  simp only [checking, tagToken, Position.offset_advance, droppedBefore, Option.map_none,
    Option.getD_none, hindent, String.length_toList]

/-- The delimiters behind a tag are those that its token changes to. -/
theorem delimsBehind_tagToken (d : Delimiters) (pos : Position) (before : List Char) (tag : Tag)
    (margins : Option Margins) :
    delimsBehind d (tagToken d pos before tag margins) = delimsAfter d tag := by
  have hvalue : (tagToken d pos before tag margins).value.toList = tag.value :=
    String.toList_ofList
  unfold delimsBehind delimsAfter
  rw [hvalue]
  cases Delimiters.ofWords? tag.value <;> rfl

/-- **A tag and the text in front of it join the tokens**, and the scanner goes on behind the
margins of the tag. -/
theorem step_checking (hpos : pos = positionAt source pos.offset)
    (hsource : source.drop pos.offset = text)
    (found : Text.cut? d.opening.toList text = some (before, body))
    (read : readTag d body = .ok tag) (tokens : List Token) :
    (checking d pos before tag tokens).step source =
      match delimsAfter d tag with
      | .error cause => .ended (.error ⟨cause, pos.advance before⟩)
      | .ok changed => .on (seeking changed
          (positionAfter d pos before tag (marginsOf pos before tag))
          (tokens ++ tagTokens d pos before tag (marginsOf pos before tag))) := by
  have hsplit := drop_offset_eq_append hsource found
  have hspot := positionAt_of_found hpos hsource found
  have hkept := keptBefore_append_droppedBefore pos before tag
  rw [step, checking]
  dsimp only
  rw [checkStandalone]
  dsimp only
  rw [alone?_tagToken hpos hsource found read, delimsBehind_tagToken]
  generalize marginsOf pos before tag = margins at hkept ⊢
  have hleading : ((margins.map fun m => (m.before, (tagToken d pos before tag none).stop +
      m.after.length)).map Prod.fst).getD [] = droppedBefore margins := by
    rw [Option.map_map]
    rfl
  have hoffset : ((margins.map fun m => (m.before, (tagToken d pos before tag none).stop +
      m.after.length)).map Prod.snd).getD (tagToken d pos before tag none).stop =
        (positionAfter d pos before tag margins).offset := by
    rw [offset_positionAfter]
    cases margins <;> rfl
  have htext : textBetween source d pos.offset
      (pos.offset + before.length - (droppedBefore margins).length) =
        textToken d pos (keptBefore before margins) := by
    have hlen := congrArg List.length hkept
    rw [List.length_append] at hlen
    rw [← hkept, List.append_assoc] at hsplit
    exact textBetween_of_drop hpos hsplit (by omega)
  have htoken : ({ tagToken d pos before tag none with
      indent := if (tagToken d pos before tag none).kind == .inclusion then
        String.ofList (droppedBefore margins) else "" } : Token) =
      tagToken d pos before tag margins := rfl
  rw [hleading, hoffset, htoken, start_tagToken, hspot, htext, tagTokens_eq, ← List.append_assoc]
  cases delimsAfter d tag <;> rfl

end Step

/-! ## Runs -/

section Run

variable {source text before body : List Char} {d changed : Delimiters} {pos : Position} {tag : Tag}

/-- A tag takes three steps: the delimiter is found, the tag is read, and the line around it is
looked at. -/
theorem iterate_three_seeking (hpos : pos = positionAt source pos.offset)
    (hsource : source.drop pos.offset = text)
    (found : Text.cut? d.opening.toList text = some (before, body))
    (read : readTag d body = .ok tag) (tokens : List Token) :
    (Turn.next source)^[3] (.on (seeking d pos tokens)) =
      match delimsAfter d tag with
      | .error cause => .ended (.error ⟨cause, pos.advance before⟩)
      | .ok changed => .on (seeking changed
          (positionAfter d pos before tag (marginsOf pos before tag))
          (tokens ++ tagTokens d pos before tag (marginsOf pos before tag))) := by
  have hfind := step_seeking_of_some hsource found tokens
  have hread := step_reading_of_ok hpos hsource found read tokens
  rw [← step_checking hpos hsource found read tokens]
  calc (Turn.next source)^[3] (.on (seeking d pos tokens))
      = (((seeking d pos tokens).step source).next source).next source := rfl
    _ = ((reading d pos before tokens).step source).next source := by rw [hfind]; rfl
    _ = (checking d pos before tag tokens).step source := by rw [hread]; rfl

/-- The steps at a tag come before those that the rest of the source takes. -/
theorem exists_iterate_of_change (hpos : pos = positionAt source pos.offset)
    (hsource : source.drop pos.offset = text)
    (found : Text.cut? d.opening.toList text = some (before, body))
    (read : readTag d body = .ok tag) (change : delimsAfter d tag = .ok changed)
    (tokens : List Token)
    (rest : ∀ tokens', ∃ n, (Turn.next source)^[n] (.on (seeking changed
        (positionAfter d pos before tag (marginsOf pos before tag)) tokens')) =
      .ended ((scan changed (positionAfter d pos before tag (marginsOf pos before tag))
        (restAfter tag (marginsOf pos before tag))).map (tokens' ++ ·))) :
    ∃ n, (Turn.next source)^[n] (.on (seeking d pos tokens)) =
      .ended ((scan d pos text).map (tokens ++ ·)) := by
  obtain ⟨n, hn⟩ := rest (tokens ++ tagTokens d pos before tag (marginsOf pos before tag))
  refine ⟨n + 3, ?_⟩
  rw [Function.iterate_add_apply, iterate_three_seeking hpos hsource found read, change]
  dsimp only
  rw [hn]
  simp only [scan_eq d pos text, found, read, change]
  cases scan changed (positionAfter d pos before tag (marginsOf pos before tag))
      (restAfter tag (marginsOf pos before tag)) with
  | error e => rfl
  | ok more => simp only [Except.map, List.append_assoc]

/-- **The steps from a position to the end of the source** lead to what the scanner makes of the
text there.

**Proof sketch.** Induction along the recursion of the scanner. -/
theorem exists_iterate_eq_ended (hpos : pos = positionAt source pos.offset)
    (hsource : source.drop pos.offset = text) (tokens : List Token) :
    ∃ n, (Turn.next source)^[n] (.on (seeking d pos tokens)) =
      .ended ((scan d pos text).map (tokens ++ ·)) := by
  induction d, pos, text using scan.induct generalizing tokens with
  | case1 d pos text found =>
    refine ⟨1, ?_⟩
    simp only [scan_eq d pos, found]
    exact step_seeking_of_none hpos hsource found tokens
  | case2 d pos text before body found cause read =>
    refine ⟨2, ?_⟩
    simp only [scan_eq d pos, found, read]
    exact (congrArg _ (step_seeking_of_some hsource found tokens)).trans
      (step_reading_of_error hpos hsource found read tokens)
  | case3 d pos text before body found tag read cause change =>
    refine ⟨3, ?_⟩
    rw [iterate_three_seeking hpos hsource found read]
    simp only [scan_eq d pos, found, read, change]
    rfl
  | case4 d pos text before body found tag read margins changed change _ _ ih =>
    exact exists_iterate_of_change hpos hsource found read change tokens
      (ih (positionAfter_eq_advance hpos hsource found read)
        (drop_offset_positionAfter hsource found read))
  | case5 d pos text before body found tag read margins changed change _ _ ih =>
    exact exists_iterate_of_change hpos hsource found read change tokens
      (ih (positionAfter_eq_advance hpos hsource found read)
        (drop_offset_positionAfter hsource found read))

end Run

/-- **What a run from the start of a source ends with** is what the scanner returns. -/
theorem eq_scan_of_after {source : List Char} {d : Delimiters} {n : Nat}
    {outcome : Except Misread (List Token)} (h : after source d n = .ended outcome) :
    scan d .start source = outcome := by
  have hstart : source.drop Position.start.offset = source := rfl
  obtain ⟨m, hm⟩ := exists_iterate_eq_ended (d := d) rfl hstart []
  have hscan : after source d m = .ended (scan d .start source) := by
    refine hm.trans ?_
    cases scan d .start source <;> rfl
  have hmax := after_of_ended h (Nat.le_max_left n m)
  rw [after_of_ended hscan (Nat.le_max_right n m)] at hmax
  exact Turn.ended.inj hmax

end Scanner

/-- **The scanner terminates under any delimiters**, be they empty, alike, or with blanks or equals
signs in them. It ends within three steps for every character and three more, and then either
returns no more tokens than there are characters or refuses a tag. It never reads beyond the end of
the source, and every time that it looks for a tag again it has come forward. -/
theorem tokenize_terminates (source : String) (name : Value) (d : Delimiters) :
    (∃ n ≤ 3 * source.length + 3, ∃ outcome,
      Scanner.after source.toList d n = .ended outcome ∧
      match outcome with
      | .ok tokens => tokenize source name d = .ok tokens ∧ tokens.length ≤ source.length
      | .error e => tokenize source name d = .error
          { cause := e.cause, line := some e.spot.line, column := some e.spot.column, name,
            source := some source }) ∧
    (∀ n s, Scanner.after source.toList d n = .on s → s.offset ≤ source.length) ∧
    ∀ m n s t, m < n → Scanner.after source.toList d m = .on s →
      Scanner.after source.toList d n = .on t → s.task = .text → t.task = .text →
      s.offset < t.offset := by
  have hlength : source.toList.length = source.length := String.length_toList
  refine ⟨?_, fun n s h => ?_, fun m n s t hlt hs ht hstext httext => ?_⟩
  · obtain ⟨outcome, h⟩ := Scanner.exists_after_eq_ended source.toList d
    refine ⟨_, by rw [hlength], outcome, h, ?_⟩
    have hscan := Scanner.eq_scan_of_after h
    cases outcome with
    | ok tokens =>
      exact ⟨by simp only [tokenize, hscan], hlength ▸ Scanner.length_le_of_after h⟩
    | error e => simp only [tokenize, hscan]
  · exact hlength ▸ (Scanner.sound_of_after h).1.offset_le
  · have hpending := (Scanner.pending_lt_of_after hs ht hlt).2 httext
    have hs' : s.pending = s.offset := by simpa [hstext] using (Scanner.sound_of_after hs).1.task
    have ht' : t.pending = t.offset := by simpa [httext] using (Scanner.sound_of_after ht).1.task
    omega

/-- Even between empty delimiters there can be a tag. -/
example : (tokenize "=a b=" .null ⟨"", ""⟩).toOption.map (·.map Token.kind) =
    some [.delimiterChange] := by decide +kernel

end Mustache
