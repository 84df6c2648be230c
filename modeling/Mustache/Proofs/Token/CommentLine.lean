import Mustache.Proofs.Render.Moved
import Mustache.Proofs.Token.ChangeTag
import Mustache.Proofs.Token.Slice

/-!
# A line with a comment, put between two lines

Where a line starts outside of tags, a source falls into two parts, each of which is scanned on its
own: the second one under the delimiters that are in effect there. So a line that holds nothing but
a comment may be put between the parts. The tokens in front of it stay, those behind it stand
further on, and a text that reaches across falls into two.

## Main definitions

* `Mustache.OutsideTags` — an offset that is not inside a tag.
* `Mustache.Delimiters.at` — the delimiters in effect at an offset.
* `Mustache.CommentLine` — a line that holds nothing but a comment.

## Main results

* `Mustache.Scanned.exists_parts` — the runs over the two parts of a source.
* `Mustache.CommentLine.scanned` — the run over the line and what follows it.
* `Mustache.Scanned.insert_commentLine` — the run over the two parts with the line between them.
-/

namespace Mustache

/-- Every tag ends at the offset or before it, or begins there or behind it. -/
def OutsideTags (tokens : List Token) (offset : Nat) : Prop :=
  ∀ t ∈ tokens, t.kind ≠ .text → t.stop ≤ offset ∨ offset ≤ t.start

instance (tokens : List Token) (offset : Nat) : Decidable (OutsideTags tokens offset) :=
  inferInstanceAs (Decidable (∀ t ∈ tokens, _))

/-- The delimiters in effect at an offset: those after the tokens that end there or before. -/
def Delimiters.at (d : Delimiters) (tokens : List Token) (offset : Nat) : Delimiters :=
  d.after (tokens.filter fun t => t.stop ≤ offset)

/-! ## The parts of a source -/

/-- A text has only one list of tokens. -/
theorem Scanned.unique {d : Delimiters} {pos : Position} {text : List Char}
    {tokens tokens' : List Token} (h : Scanned d pos text tokens)
    (h' : Scanned d pos text tokens') : tokens = tokens' :=
  Except.ok.inj ((scan_eq_ok_iff.2 h).symm.trans (scan_eq_ok_iff.2 h'))

/-- No newline is part of a delimiter. -/
theorem Delimiters.IsPlain.newline_not_mem_opening {d : Delimiters} (hd : d.IsPlain) :
    '\n' ∉ d.opening.toList := fun hmem => by
  have hblank := hd.opening.2 _ hmem
  revert hblank
  decide

/-- The first tag behind a line start, where nothing in front is a tag, is the first one of the
text that begins there. -/
theorem cut?_behind_line {d : Delimiters} (hd : d.IsPlain) {pos : Position} {a b : List Char}
    {k l : Nat} (hpos : pos.advance a = Position.start.shift k l)
    (hnone : Text.cut? d.opening.toList a = none) :
    Text.cut? d.opening.toList (a ++ b) =
      (Text.cut? d.opening.toList b).map fun parts => (a ++ parts.1, parts.2) := by
  rcases (Position.column_advance_eq_zero_iff pos a).1 (by rw [hpos]; rfl) with ⟨rfl, -⟩ | hline
  · simp
  · obtain ⟨init, rfl⟩ := List.getLast?_eq_some_iff.1 hline
    exact Text.cut?_append_of_eq_none hnone hd.newline_not_mem_opening b

/-- Behind a line start a tag has the margins that it has at the start of a source. -/
theorem marginsOf_behind_line_start {pos : Position} {a : List Char} {k l : Nat}
    (hpos : pos.advance a = Position.start.shift k l) (before : List Char) (tag : Tag) :
    marginsOf pos (a ++ before) tag = marginsOf .start before tag := by
  rcases (Position.column_advance_eq_zero_iff pos a).1 (by rw [hpos]; rfl) with
    ⟨rfl, hcolumn⟩ | hline
  · unfold marginsOf
    rw [hcolumn]
    rfl
  · exact marginsOf_behind_line hline pos before tag

/-- **The parts of a source.** Where a line starts outside of tags, the text in front is scanned on
its own, and the text behind under the delimiters that are in effect there.

**Proof sketch.** Induction on the run. A tag of the text in front is read from this text alone, and
as the text ends with a line, the tag has the same margins there. The first tag behind has the
margins that it has at the start of a source. -/
theorem Scanned.exists_parts {d : Delimiters} {pos : Position} {a b : List Char}
    {tokens : List Token} (h : Scanned d pos (a ++ b) tokens) (hd : d.IsPlain) {k l : Nat}
    (hpos : pos.advance a = Position.start.shift k l)
    (houtside : OutsideTags tokens (pos.offset + a.length)) :
    ∃ first second, Scanned d pos a first ∧ Scanned (d.after first) .start b second := by
  generalize htext : a ++ b = text at h
  induction h generalizing a with
  | @last d pos text found =>
    subst htext
    have hnone : Text.cut? d.opening.toList a = none :=
      Text.cut?_eq_none_iff.2 fun i hocc =>
        Text.cut?_eq_none_iff.1 found i (Text.OccursAt.append hocc b)
    rw [cut?_behind_line hd hpos hnone, Option.map_eq_none_iff] at found
    exact ⟨_, _, .last hnone, by rw [Delimiters.after_textToken]; exact .last found⟩
  | @tag d changed pos text before body tag tokens found read change rest ih =>
    subst htext
    have hplain := Delimiters.isPlain_of_delimsAfter change hd
    have hopening := List.length_pos_iff.2 hd.opening.1
    by_cases hlen : a.length ≤ before.length
    · -- The tag stands behind the line start.
      have hnone := Text.cut?_eq_none_of_append found hd.opening.1 (by omega)
      rw [cut?_behind_line hd hpos hnone, Option.map_eq_some_iff] at found
      obtain ⟨⟨before', body'⟩, found', heq⟩ := found
      simp only [Prod.mk.injEq] at heq
      obtain ⟨rfl, rfl⟩ := heq
      rw [marginsOf_behind_line_start hpos, positionAfter_behind hpos, positionAfter_shift] at rest
      obtain ⟨tokens', rest', -⟩ := rest.exists_of_shift
      exact ⟨_, _, .last hnone,
        by rw [Delimiters.after_textToken]; exact .tag found' read change rest'⟩
    · -- The tag stands in front of the line start.
      have hstop := houtside (tagToken d pos before tag (marginsOf pos before tag))
        (mem_tagTokens_append_iff.2 (.inr (.inl rfl))) (kind_ne_text_of_readTag read)
      rw [start_tagToken, stop_tagToken] at hstop
      obtain ⟨body', tag', rfl, rfl, found', read'⟩ :=
        exists_readTag_of_append hd found read (by omega)
      have hline : tag'.rest.getLast? = some '\n' := by
        refine getLast?_rest hd found' read' ?_
        rcases (Position.column_advance_eq_zero_iff pos a).1 (by rw [hpos]; rfl) with
          ⟨rfl, -⟩ | hline
        · simp at hlen
        · exact hline
      have hmargins := marginsOf_append pos before hline Text.isMargin_newline (by decide) b
      rw [hmargins] at houtside ih
      rw [positionAfter_followedBy, restAfter_followedBy] at ih
      have hadvance := advance_positionAfter found' read' pos
      have hoffset := congrArg Position.offset hadvance
      simp only [Position.offset_advance] at hoffset
      obtain ⟨first, second, hfirst, hsecond⟩ := ih hplain (hadvance.trans hpos)
        (fun t ht hkind => by
          rw [hoffset]
          exact houtside t (List.mem_append_right _ ht) hkind) rfl
      have change' : delimsAfter d tag' = .ok changed := change
      exact ⟨_, second, .tag found' read' change' hfirst, by
        rwa [Delimiters.after_append, Delimiters.after_tagTokens change']⟩

/-! ## The line -/

/-- What may stand beside a tag that has its line to itself is blank. -/
theorem Text.isBlank_of_isMargin {c : Char} (h : isMargin c = true) : isBlank c = true := by
  simp only [isMargin, Bool.or_eq_true, beq_iff_eq] at h
  rcases h with rfl | rfl <;> decide

/-- **A line that holds nothing but a comment**: blanks, a comment that is closed where it is meant
to be, blanks and a newline. -/
structure CommentLine (d : Delimiters) where
  /-- The blanks in front of the comment. -/
  before : List Char
  /-- What stands between the sigil and the closing delimiter. -/
  inner : List Char
  /-- The blanks behind the comment. -/
  behind : List Char
  isMargin_before : ∀ c ∈ before, Text.isMargin c = true
  isMargin_behind : ∀ c ∈ behind, Text.isMargin c = true
  closes : Text.cut? d.closing.toList (inner ++ d.closing.toList) = some (inner, [])

namespace CommentLine

variable {d : Delimiters} (line : CommentLine d)

/-- The characters of the line. -/
def text : List Char :=
  line.before ++ (d.opening.toList ++ ('!' :: (line.inner ++ d.closing.toList) ++
    (line.behind ++ ['\n'])))

/-- The comment, with what follows the line. -/
def tag (rest : List Char) : Tag :=
  { kind := .comment, value := Text.trim line.inner
    consumed := '!' :: (line.inner ++ d.closing.toList)
    rest := line.behind ++ '\n' :: rest }

theorem getLast?_text : line.text.getLast? = some '\n' := by
  unfold text
  simp only [← List.append_assoc]
  rw [List.getLast?_append]
  rfl

/-- The comment is found behind the blanks. -/
theorem cut?_text (hd : d.IsPlain) (rest : List Char) :
    Text.cut? d.opening.toList (line.text ++ rest) =
      some (line.before, (line.tag rest).consumed ++ (line.tag rest).rest) := by
  have hfound : Text.cut? d.opening.toList (d.opening.toList ++
      ('!' :: (line.inner ++ d.closing.toList) ++ (line.behind ++ '\n' :: rest))) =
        some ([], '!' :: (line.inner ++ d.closing.toList) ++ (line.behind ++ '\n' :: rest)) :=
    Text.cut?_eq_some_iff.2 ⟨by simp, by simp⟩
  have htext : line.text ++ rest = line.before ++ (d.opening.toList ++
      ('!' :: (line.inner ++ d.closing.toList) ++ (line.behind ++ '\n' :: rest))) := by
    simp [text]
  rw [htext, Text.cut?_blank_append hd.opening
    fun c hc => Text.isBlank_of_isMargin (line.isMargin_before c hc), hfound]
  simp [tag]

/-- The comment is read as it is written. -/
theorem readTag_tag (rest : List Char) :
    readTag d ((line.tag rest).consumed ++ (line.tag rest).rest) = .ok (line.tag rest) := by
  have hcut := Text.cut?_append line.closes (line.behind ++ '\n' :: rest)
  obtain ⟨heq, hfirst⟩ := Text.cut?_eq_some_iff.1 hcut
  refine readTag_eq_ok_iff.2 ⟨['!'], line.inner, .char (by simp [sigils, tag]), ?_, ?_, rfl, ?_, ?_⟩
  · simp [tag, closerOf]
  · intro i hi hocc
    refine hfirst i hi ?_
    simpa [tag, closerOf] using hocc
  · simp [tag, closerOf]
  · intro _
    rfl

/-- The line is dropped as a whole. -/
theorem marginsOf_tag (rest : List Char) :
    marginsOf .start line.before (line.tag rest) =
      some ⟨line.before, line.behind ++ ['\n'], rest⟩ := by
  have hnone : '\n' ∉ line.before := fun hmem => by
    have := line.isMargin_before _ hmem
    revert this
    decide
  refine standalone?_eq_some_iff.2 ⟨rfl, .inl rfl, (Text.lastLine_eq_self hnone).symm,
    line.isMargin_before, lineRest?_eq_some_iff.2 ⟨line.behind, ['\n'], line.isMargin_behind, rfl,
      by simp [tag], .inl rfl⟩⟩

/-- **The run over the line and what follows it**: a comment, and the tokens that what follows has
on its own, further on. -/
theorem scanned (hd : d.IsPlain) {rest : List Char} {tokens : List Token}
    (h : Scanned d .start rest tokens) {l : Nat}
    (hpos : Position.start.advance line.text = Position.start.shift line.text.length l) :
    ∃ comment : Token, comment.kind = .comment ∧ Scanned d .start (line.text ++ rest)
      (comment :: tokens.map (Token.shift line.text.length l)) := by
  have hmargins := line.marginsOf_tag rest
  have hposition : positionAfter d .start line.before (line.tag rest)
      (marginsOf .start line.before (line.tag rest)) =
        Position.start.shift line.text.length l := by
    rw [← hpos, hmargins]
    simp [positionAfter, text, tag, Position.advance_append]
  have htokens : tagTokens d .start line.before (line.tag rest)
      (marginsOf .start line.before (line.tag rest)) =
        [tagToken d .start line.before (line.tag rest)
          (marginsOf .start line.before (line.tag rest))] := by
    rw [tagTokens_eq, hmargins]
    simp [keptBefore, droppedBefore, textToken]
  refine ⟨tagToken d .start line.before (line.tag rest)
    (marginsOf .start line.before (line.tag rest)), rfl, ?_⟩
  rw [← List.singleton_append, ← htokens]
  refine .tag (line.cut?_text hd rest) (line.readTag_tag rest)
    (Delimiters.delimsAfter_eq_ok_iff.2 (.inr ⟨by simp [tag], rfl⟩)) ?_
  rw [hposition, hmargins]
  exact h.shift line.text.length l

end CommentLine

/-! ## Both parts with the line between them -/

/-- Tokens that are no delimiter changes leave the delimiters as they are. -/
theorem Delimiters.after_eq_self {d : Delimiters} {tokens : List Token}
    (h : ∀ t ∈ tokens, t.kind ≠ .delimiterChange) : d.after tokens = d := by
  induction tokens with
  | nil => rfl
  | cons t ts ih =>
    rw [List.forall_mem_cons] at h
    rw [Delimiters.after, List.foldl_cons, if_neg h.1]
    exact ih h.2

/-- The delimiters after some tokens are plain. -/
theorem Delimiters.IsPlain.after {d : Delimiters} (hd : d.IsPlain) (tokens : List Token) :
    (d.after tokens).IsPlain := by
  induction tokens generalizing d with
  | nil => exact hd
  | cons t ts ih =>
    refine ih (d := if t.kind = .delimiterChange then (ofWords? t.value.toList).getD d else d) ?_
    split
    · cases hwords : ofWords? t.value.toList with
      | none => exact hd
      | some changed => exact isPlain_of_ofWords? hwords
    · exact hd

/-- The delimiters in effect at the end of the first of two parts: what belongs to the second part
ends behind, and a text makes no difference. -/
theorem Delimiters.at_eq_after {d e : Delimiters} {spot : Position} {init rest : List Token}
    {cs : List Char} {offset : Nat} (hinit : ∀ t ∈ init, t.stop ≤ offset)
    (hrest : ∀ t ∈ rest, offset < t.stop) :
    d.at (init ++ textToken e spot cs ++ rest) offset = d.after init := by
  have hfirst : init.filter (fun t => t.stop ≤ offset) = init :=
    List.filter_eq_self.2 fun t ht => decide_eq_true (hinit t ht)
  have hlast : rest.filter (fun t => t.stop ≤ offset) = [] :=
    List.filter_eq_nil_iff.2 fun t ht => by
      have := hrest t ht
      simpa using this
  rw [Delimiters.at, List.filter_append, List.filter_append, hfirst, hlast, List.append_nil,
    Delimiters.after_append]
  refine Delimiters.after_eq_self fun t ht => ?_
  obtain ⟨-, rfl⟩ := mem_textToken_iff.1 (List.mem_of_mem_filter ht)
  simp

/-- **A line with a comment between two parts of a source.** At a line start outside of tags, a line
that holds nothing but a comment under the delimiters in effect there may be put in. The tokens in
front of it are the same, those behind it stand further on, and a text that reaches across falls
into two.

**Proof sketch.** The two parts are scanned on their own. Behind the line the second part has the
same tokens further on, and the line starts with its comment, so that no text of the first part goes
on in it. -/
theorem Scanned.insert_commentLine {d : Delimiters} {a b : List Char} {tokens : List Token}
    (h : Scanned d .start (a ++ b) tokens) (hd : d.IsPlain)
    (hline : a = [] ∨ a.getLast? = some '\n') (houtside : OutsideTags tokens a.length)
    (line : CommentLine (d.at tokens a.length)) :
    ∃ init e spot spot' u v rest rest' comment, comment.kind = .comment ∧
      tokens = init ++ textToken e spot (u ++ v) ++ rest ∧
      Scanned d .start (a ++ (line.text ++ b))
        (init ++ textToken e spot u ++ comment :: (textToken e spot' v ++ rest')) ∧
      (∀ t ∈ init, t.stop ≤ a.length ∧ t.start ≤ a.length) ∧
      List.Forall₂ (Token.Moved b.length a.length (a.length + line.text.length)) rest rest' := by
  obtain ⟨l, hpos⟩ : ∃ l, Position.start.advance a = Position.start.shift a.length l := by
    rcases hline with rfl | hline
    · exact ⟨0, rfl⟩
    · exact exists_advance_eq_shift hline
  obtain ⟨l', hpos'⟩ := exists_advance_eq_shift line.getLast?_text
  obtain ⟨first, second, hfirst, hsecond⟩ :=
    h.exists_parts hd hpos (by rw [Position.start, Nat.zero_add]; exact houtside)
  obtain ⟨init, e, spot, u, v, rest, rfl, rfl, hboth⟩ := hfirst.append hd hpos hsecond
  obtain rfl := h.unique hboth
  have hbounds (t : Token) (ht : t ∈ init) : t.stop ≤ a.length ∧ t.start ≤ a.length := by
    obtain ⟨-, hfits⟩ := (hfirst.ordered rfl hd).1 t (List.mem_append_left _ ht)
    exact ⟨hfits.stop_le, Nat.le_trans (Nat.le_of_lt hfits.start_lt_stop) hfits.stop_le⟩
  have hfits (t : Token) (ht : t ∈ rest) : t.start < t.stop ∧ t.start ≤ b.length := by
    obtain ⟨-, hfits⟩ := (hsecond.ordered rfl (hd.after _)).1 t (List.mem_append_right _ ht)
    exact ⟨hfits.start_lt_stop, Nat.le_trans (Nat.le_of_lt hfits.start_lt_stop) hfits.stop_le⟩
  -- The line is scanned in front of the second part.
  have hat : d.at (init ++ textToken e spot (u ++ v) ++ rest.map (Token.shift a.length l))
      a.length = d.after (init ++ textToken e spot u) := by
    rw [Delimiters.after_append, Delimiters.after_textToken]
    refine Delimiters.at_eq_after (fun t ht => (hbounds t ht).1) fun t ht => ?_
    obtain ⟨t', ht', rfl⟩ := List.mem_map.1 ht
    have hlt := (hfits t' ht').1
    show a.length < t'.stop + a.length
    omega
  obtain ⟨comment, hcomment, hrun⟩ :=
    line.scanned (hat ▸ hd.after _) (hat ▸ hsecond) hpos'
  generalize line.text = text at hrun hpos' ⊢
  rw [hat] at hrun
  -- No text of the first part goes on in it.
  obtain ⟨init', e', spot', u', v', rest', hinit, htokens, hall⟩ := hfirst.append hd hpos hrun
  obtain rfl : v' = [] := by
    by_contra hne
    have hmem : comment ∈ textToken e' .start v' := by
      cases v' with
      | nil => exact absurd rfl hne
      | cons c cs =>
        have hhead := congrArg List.head? htokens
        rw [List.head?_cons] at hhead
        rw [Option.some.inj hhead]
        simp [textToken]
    rw [kind_of_mem_textToken hmem] at hcomment
    simp at hcomment
  rw [List.append_nil, ← hinit, ← show _ = rest' from htokens, List.map_cons, List.map_append,
    List.map_append, ← textToken_shift, ← textToken_shift, List.map_map] at hall
  refine ⟨init, e, spot, _, u, v, _, _, _, ?_, rfl, hall, hbounds, ?_⟩
  · exact hcomment
  · rw [List.forall₂_map_left_iff, List.forall₂_map_right_iff, List.forall₂_same]
    intro t ht
    refine ⟨rfl, rfl, rfl, rfl, ⟨t.start, (hfits t ht).2, rfl, ?_⟩, t.stop, rfl, ?_⟩
    · show t.start + text.length + a.length = _
      omega
    · show t.stop + text.length + a.length = _
      omega

end Mustache
