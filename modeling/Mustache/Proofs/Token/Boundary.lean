import Mustache.Proofs.Delimiters
import Mustache.Proofs.Token.Run

/-!
# Scanning across a line boundary

The scanner looks ahead no further than to the end of a line. So when a source ends with a
newline, what is put behind it does not change its tokens, except that the text at its end goes
on; and what is put behind it is scanned as it is on its own, from another offset and line.

## Main definitions

* `Mustache.Position.shift`, `Mustache.Token.shift` — some characters and lines further on.
* `Mustache.Delimiters.after` — the delimiters in effect after some tokens.

## Main results

* `Mustache.Scanned.shift` — a run further on.
* `Mustache.readTag_append`, `Mustache.marginsOf_append` — a step when the source goes on.
* `Mustache.Scanned.append` — the run over two sources, one behind the other.
-/

namespace Mustache

/-! ## Shifted positions -/

/-- The place some lines further on. -/
def Place.shift (lines : Nat) (p : Place) : Place := ⟨p.line + lines, p.column⟩

/-- The position some characters and lines further on, in the same column. -/
def Position.shift (chars lines : Nat) (p : Position) : Position :=
  ⟨p.offset + chars, p.line + lines, p.column⟩

/-- The token some characters and lines further on. -/
def Token.shift (chars lines : Nat) (t : Token) : Token :=
  { t with place := t.place.shift lines, start := t.start + chars, stop := t.stop + chars }

section

variable (k l : Nat)

theorem Position.advance_shift (p : Position) (cs : List Char) :
    (p.shift k l).advance cs = (p.advance cs).shift k l := by
  induction cs generalizing p with
  | nil => rfl
  | cons c cs ih =>
    have hnext : (p.shift k l).next c = (p.next c).shift k l := by
      unfold next shift
      split
      · simp only [Position.mk.injEq, and_true]
        omega
      · simp only [Position.mk.injEq, and_true]
        omega
    show ((p.shift k l).next c).advance cs = ((p.next c).advance cs).shift k l
    rw [hnext, ih]

theorem textToken_shift (d : Delimiters) (p : Position) (cs : List Char) :
    textToken d (p.shift k l) cs = (textToken d p cs).map (Token.shift k l) := by
  unfold textToken
  split
  · rfl
  · simp only [List.map_cons, List.map_nil, Token.shift, Position.shift, Position.place,
      Place.shift, List.cons.injEq, Token.mk.injEq, and_true, true_and]
    omega

theorem tagToken_shift (d : Delimiters) (p : Position) (before : List Char) (tag : Tag)
    (margins : Option Margins) :
    tagToken d (p.shift k l) before tag margins =
      (tagToken d p before tag margins).shift k l := by
  unfold tagToken
  rw [Position.advance_shift]
  simp only [Token.shift, Position.shift, Position.place, Place.shift, Token.mk.injEq, and_true,
    true_and]
  omega

theorem positionAfter_shift (d : Delimiters) (p : Position) (before : List Char) (tag : Tag)
    (margins : Option Margins) :
    positionAfter d (p.shift k l) before tag margins =
      (positionAfter d p before tag margins).shift k l := by
  unfold positionAfter
  rw [Position.advance_shift, Position.advance_shift]

/-- **A run further on**: the tokens are the same, some characters and lines further on. -/
theorem Scanned.shift {d : Delimiters} {p : Position} {text : List Char} {tokens : List Token}
    (h : Scanned d p text tokens) :
    Scanned d (p.shift k l) text (tokens.map (Token.shift k l)) := by
  induction h with
  | last found =>
    rw [← textToken_shift]
    exact .last found
  | @tag d changed p text before body tag tokens found read change rest ih =>
    have hmargins : marginsOf (p.shift k l) before tag = marginsOf p before tag := rfl
    have htokens : (tagTokens d p before tag (marginsOf p before tag)).map (Token.shift k l) =
        tagTokens d (p.shift k l) before tag (marginsOf (p.shift k l) before tag) := by
      rw [hmargins, tagTokens_eq, tagTokens_eq, List.map_append, textToken_shift, tagToken_shift]
      rfl
    rw [List.map_append, htokens]
    refine .tag found read change ?_
    rw [hmargins, positionAfter_shift]
    exact ih

end

/-! ## Steps when the source goes on -/

/-- The sigil at the start of a text stays when the text goes on. -/
theorem SigilOf.append {text sigil : List Char} {kind : TokenKind} (h : SigilOf text sigil kind)
    (hne : text ≠ []) (more : List Char) : SigilOf (text ++ more) sigil kind := by
  cases h with
  | char hmem => exact .char hmem
  | absent hno =>
    refine .absent ?_
    rw [List.head?_append_of_ne_nil _ hne]
    exact hno

/-- A closer is never empty. -/
theorem closerOf_ne_nil {d : Delimiters} (hd : d.IsPlain) (sigil : List Char) :
    closerOf d sigil ≠ [] := by
  unfold closerOf
  split
  · simp
  · simp
  · exact hd.closing.1

/-- A tag is read as before when the source goes on. -/
theorem readTag_append {d : Delimiters} {body : List Char} {tag : Tag} (hd : d.IsPlain)
    (h : readTag d body = .ok tag) (more : List Char) :
    readTag d (body ++ more) = .ok { tag with rest := tag.rest ++ more } := by
  obtain ⟨sigil, inner, hsigil, heq, hfirst, hvalue, hconsumed, hempty⟩ := readTag_eq_ok_iff.1 h
  have hne : body ≠ [] := by
    rintro rfl
    simp [closerOf_ne_nil hd] at heq
  have hdrop : (body ++ more).drop sigil.length = body.drop sigil.length ++ more := by
    refine List.drop_append_of_le_length ?_
    have hlen := congrArg List.length hsigil.eq_append_drop
    rw [List.length_append] at hlen
    omega
  refine readTag_eq_ok_iff.2 ⟨sigil, inner, hsigil.append hne more, ?_, fun i hi hocc => ?_, hvalue,
    hconsumed, hempty⟩
  · rw [hdrop, heq]
    simp only [List.append_assoc]
  · rw [hdrop] at hocc
    refine hfirst i hi (hocc.of_append ?_)
    have hlen := congrArg List.length heq
    simp only [List.length_append] at hlen
    omega

/-- The rest of a line is found as before when the source goes on behind a character that is
neither a blank nor part of a line ending that may go on. -/
theorem lineRest?_append {rest : List Char} {c : Char} (hlast : rest.getLast? = some c)
    (hmargin : Text.isMargin c = false) (hreturn : c ≠ '\r') (more : List Char) :
    lineRest? (rest ++ more) = (lineRest? rest).map fun parts => (parts.1, parts.2 ++ more) := by
  obtain ⟨init, rfl⟩ := List.getLast?_eq_some_iff.1 hlast
  have hdrop : (init ++ [c]).dropWhile Text.isMargin = init.dropWhile Text.isMargin ++ [c] := by
    rw [List.dropWhile_append]
    split
    · next h => simp [List.isEmpty_iff.1 h, hmargin]
    · rfl
  have hne : ((init ++ [c]).dropWhile Text.isMargin).isEmpty = false := by
    rw [hdrop]
    simp
  have htake : ((init ++ [c]) ++ more).takeWhile Text.isMargin =
      (init ++ [c]).takeWhile Text.isMargin := by
    rw [List.takeWhile_append, if_neg]
    intro hlen
    have hall := (List.takeWhile_prefix _).eq_of_length hlen
    have hmem : c ∈ (init ++ [c]).takeWhile Text.isMargin := by
      rw [hall]
      simp
    have := List.mem_takeWhile_imp hmem
    rw [hmargin] at this
    simp at this
  unfold lineRest?
  rw [htake, List.dropWhile_append, hne, hdrop]
  simp only [Bool.false_eq_true, if_false]
  cases init.dropWhile Text.isMargin with
  | nil =>
    by_cases hn : c = '\n'
    · simp [hn]
    · simp [hn, hreturn]
  | cons d ds =>
    by_cases hn : d = '\n'
    · simp [hn]
    · by_cases hr : d = '\r'
      · subst hr
        cases ds with
        | nil => by_cases hc : c = '\n' <;> simp [hc]
        | cons d ds =>
          by_cases hd : d = '\n'
          · simp [hd]
          · simp [hd]
      · simp [hn, hr]

/-- A tag with more text after it. -/
def Tag.followedBy (tag : Tag) (more : List Char) : Tag := { tag with rest := tag.rest ++ more }

/-- The margins of a tag with more text after them. -/
def Margins.followedBy (m : Margins) (more : List Char) : Margins :=
  { m with rest := m.rest ++ more }

section

variable (margins : Option Margins) (more : List Char)

@[simp] theorem droppedAfter_followedBy :
    droppedAfter (margins.map (·.followedBy more)) = droppedAfter margins := by
  cases margins <;> rfl

theorem restAfter_followedBy (tag : Tag) :
    restAfter (tag.followedBy more) (margins.map (·.followedBy more)) =
      restAfter tag margins ++ more := by
  cases margins <;> rfl

theorem tagTokens_followedBy (d : Delimiters) (pos : Position) (before : List Char) (tag : Tag) :
    tagTokens d pos before (tag.followedBy more) (margins.map (·.followedBy more)) =
      tagTokens d pos before tag margins := by
  cases margins <;> rfl

theorem positionAfter_followedBy (d : Delimiters) (pos : Position) (before : List Char)
    (tag : Tag) :
    positionAfter d pos before (tag.followedBy more) (margins.map (·.followedBy more)) =
      positionAfter d pos before tag margins := by
  cases margins <;> rfl

end

/-- A tag has the same margins when the source goes on behind a character that is neither a blank
nor part of a line ending that may go on. -/
theorem marginsOf_append (pos : Position) (before : List Char) {tag : Tag} {c : Char}
    (hlast : tag.rest.getLast? = some c) (hmargin : Text.isMargin c = false) (hreturn : c ≠ '\r')
    (more : List Char) : marginsOf pos before (tag.followedBy more) =
      (marginsOf pos before tag).map (·.followedBy more) := by
  unfold marginsOf Tag.followedBy
  rw [standalone?_eq_ite, standalone?_eq_ite, lineRest?_append hlast hmargin hreturn]
  split
  · rw [Option.map_map, Option.map_map]
    rfl
  · rfl

/-- A step of the scanner when the source goes on behind a character that is neither a blank nor
part of a line ending that may go on. -/
theorem Scanned.tag_append {d changed : Delimiters} {pos : Position} {text before body : List Char}
    {tag : Tag} {tokens : List Token} {c : Char} (hd : d.IsPlain)
    (found : Text.cut? d.opening.toList text = some (before, body))
    (read : readTag d body = .ok tag) (change : delimsAfter d tag = .ok changed)
    (hlast : tag.rest.getLast? = some c) (hmargin : Text.isMargin c = false) (hreturn : c ≠ '\r')
    {more : List Char}
    (rest : Scanned changed (positionAfter d pos before tag (marginsOf pos before tag))
      (restAfter tag (marginsOf pos before tag) ++ more) tokens) :
    Scanned d pos (text ++ more)
      (tagTokens d pos before tag (marginsOf pos before tag) ++ tokens) := by
  have hmargins := marginsOf_append pos before hlast hmargin hreturn more
  rw [← tagTokens_followedBy _ more, ← hmargins]
  refine .tag (Text.cut?_append found more) (readTag_append hd read more) change ?_
  rw [hmargins, positionAfter_followedBy, restAfter_followedBy]
  exact rest

/-- Where the scan goes on, as much of the source is left as there is after the tag. -/
theorem advance_positionAfter {d : Delimiters} {text before body : List Char} {tag : Tag}
    (found : Text.cut? d.opening.toList text = some (before, body))
    (read : readTag d body = .ok tag) (pos : Position) :
    (positionAfter d pos before tag (marginsOf pos before tag)).advance
      (restAfter tag (marginsOf pos before tag)) = pos.advance text := by
  rw [eq_append_of_readTag found read, rest_eq_append_restAfter pos before tag]
  unfold positionAfter droppedAfter
  simp only [Position.advance_append]

/-- A tag does not end with a blank, as no closer does. -/
theorem exists_getLast?_consumed {d : Delimiters} {body : List Char} {tag : Tag} (hd : d.IsPlain)
    (read : readTag d body = .ok tag) :
    ∃ c, tag.consumed.getLast? = some c ∧ Text.isBlank c = false := by
  obtain ⟨sigil, inner, -, -, -, -, hconsumed, -⟩ := readTag_eq_ok_iff.1 read
  obtain ⟨front, hcloser⟩ : ∃ front, closerOf d sigil = front ++ d.closing.toList := by
    unfold closerOf
    split
    · exact ⟨['\x7d'], rfl⟩
    · exact ⟨['='], rfl⟩
    · exact ⟨[], rfl⟩
  obtain ⟨c, hc⟩ := List.getLast?_isSome.2 hd.closing.1 |> Option.isSome_iff_exists.1
  refine ⟨c, ?_, hd.closing.2 c (List.mem_of_getLast? hc)⟩
  rw [hconsumed, hcloser, ← List.append_assoc, List.getLast?_append, hc]
  rfl

/-- If a text ends with a newline, so does what is left of it after a tag. -/
theorem getLast?_rest {d : Delimiters} {text before body : List Char} {tag : Tag} (hd : d.IsPlain)
    (found : Text.cut? d.opening.toList text = some (before, body))
    (read : readTag d body = .ok tag) (hline : text.getLast? = some '\n') :
    tag.rest.getLast? = some '\n' := by
  rw [eq_append_of_readTag found read, List.getLast?_append] at hline
  cases hrest : tag.rest.getLast? with
  | some c => rwa [hrest, Option.some_or] at hline
  | none =>
    obtain ⟨c, hc, hblank⟩ := exists_getLast?_consumed hd read
    rw [hrest, Option.none_or, List.getLast?_append, hc, Option.some_or, Option.some.injEq] at hline
    subst hline
    simp [Text.isBlank] at hblank

/-! ## Behind a line -/

/-- Behind a newline a tag has the margins that it has at the start of a source. -/
theorem marginsOf_behind_line {line : List Char} (hline : line.getLast? = some '\n')
    (pos : Position) (before : List Char) (tag : Tag) :
    marginsOf pos (line ++ before) tag = marginsOf .start before tag := by
  obtain ⟨init, rfl⟩ := List.getLast?_eq_some_iff.1 hline
  have hlast : Text.lastLine (init ++ ['\n'] ++ before) = Text.lastLine before := by
    rw [List.append_assoc, List.singleton_append, Text.lastLine_append_newline]
  unfold marginsOf standalone?
  rw [hlast]
  simp [Position.start]

/-- What is kept in front of a tag when there is more text in front. -/
theorem keptBefore_append (line : List Char) (pos : Position) (before : List Char) (tag : Tag) :
    keptBefore (line ++ before) (marginsOf pos before tag) =
      line ++ keptBefore before (marginsOf pos before tag) := by
  have hlen := congrArg List.length (keptBefore_append_droppedBefore pos before tag)
  rw [List.length_append] at hlen
  unfold keptBefore
  rw [List.length_append, Nat.add_sub_assoc (by omega), List.take_length_add_append]

theorem tagToken_behind {pos p : Position} {line : List Char} (hpos : pos.advance line = p)
    (d : Delimiters) (before : List Char) (tag : Tag) (margins : Option Margins) :
    tagToken d pos (line ++ before) tag margins = tagToken d p before tag margins := by
  unfold tagToken
  rw [Position.advance_append, hpos]

theorem positionAfter_behind {pos p : Position} {line : List Char} (hpos : pos.advance line = p)
    (d : Delimiters) (before : List Char) (tag : Tag) (margins : Option Margins) :
    positionAfter d pos (line ++ before) tag margins = positionAfter d p before tag margins := by
  unfold positionAfter
  rw [Position.advance_append pos, hpos]

/-- A run behind a line, in which nothing is a tag.

**Proof sketch.** No opening delimiter reaches across the newline, so the first tag behind the line
is the first tag there is. It has the same margins as at the start of a source, since a line starts
behind the newline. The line joins the text in front of the tag; from the tag on, the run is the
one from the start, some characters and lines further on. -/
theorem Scanned.behind_line {d : Delimiters} {pos : Position} {line more : List Char}
    {tokens : List Token} {k l : Nat} (h : Scanned d .start more tokens) (hd : d.IsPlain)
    (hpos : pos.advance line = Position.start.shift k l) (hline : line.getLast? = some '\n')
    (hnone : Text.cut? d.opening.toList line = none) :
    ∃ v rest, tokens = textToken d .start v ++ rest ∧
      Scanned d pos (line ++ more) (textToken d pos (line ++ v) ++ rest.map (Token.shift k l)) := by
  have hcut : Text.cut? d.opening.toList (line ++ more) =
      (Text.cut? d.opening.toList more).map fun parts => (line ++ parts.1, parts.2) := by
    obtain ⟨init, rfl⟩ := List.getLast?_eq_some_iff.1 hline
    refine Text.cut?_append_of_eq_none hnone (fun hmem => ?_) more
    have hblank := hd.opening.2 _ hmem
    revert hblank
    decide
  cases h with
  | last found =>
    refine ⟨more, [], (List.append_nil _).symm, ?_⟩
    rw [List.map_nil, List.append_nil]
    rw [found] at hcut
    exact .last hcut
  | @tag _ changed _ _ before body tag tokens found read change rest =>
    rw [found] at hcut
    refine ⟨keptBefore before (marginsOf .start before tag),
      tagToken d .start before tag (marginsOf .start before tag) :: tokens, ?_, ?_⟩
    · rw [tagTokens_eq, List.append_assoc, List.singleton_append]
    · have hmargins := marginsOf_behind_line hline pos before tag
      have htokens : tagTokens d pos (line ++ before) tag (marginsOf pos (line ++ before) tag) =
          textToken d pos (line ++ keptBefore before (marginsOf .start before tag)) ++
            [(tagToken d .start before tag (marginsOf .start before tag)).shift k l] := by
        rw [tagTokens_eq, hmargins, keptBefore_append, tagToken_behind hpos, tagToken_shift]
      rw [List.map_cons, ← List.singleton_append, ← List.append_assoc, ← htokens]
      refine .tag hcut read change ?_
      rw [hmargins, positionAfter_behind hpos, positionAfter_shift]
      exact rest.shift k l

/-! ## Delimiters after tokens -/

/-- The delimiters in effect after some tokens: those of the last change. -/
def Delimiters.after (d : Delimiters) (tokens : List Token) : Delimiters :=
  tokens.foldl (fun d t =>
    if t.kind = .delimiterChange then (Delimiters.ofWords? t.value.toList).getD d else d) d

theorem Delimiters.after_append (d : Delimiters) (ts us : List Token) :
    d.after (ts ++ us) = (d.after ts).after us := List.foldl_append

theorem Delimiters.after_textToken (d d' : Delimiters) (pos : Position) (cs : List Char) :
    d.after (textToken d' pos cs) = d := by
  unfold textToken
  split <;> rfl

/-- After the tokens of a step the delimiters are those that the scan goes on with. -/
theorem Delimiters.after_tagTokens {d changed : Delimiters} {tag : Tag}
    (change : delimsAfter d tag = .ok changed) (pos : Position) (before : List Char)
    (margins : Option Margins) : d.after (tagTokens d pos before tag margins) = changed := by
  rw [tagTokens_eq, Delimiters.after_append, Delimiters.after_textToken, Delimiters.after,
    List.foldl_cons, List.foldl_nil, kind_tagToken]
  rcases delimsAfter_eq_ok_iff.1 change with ⟨hk, hwords⟩ | ⟨hk, rfl⟩
  · rw [if_pos hk, tagToken, String.toList_ofList, hwords]
    rfl
  · rw [if_neg hk]

/-! ## Two sources -/

/-- **The run over two sources, one behind the other.** If the first one ends with a line, then its
tokens are followed by those of the second one, some characters and lines further on; only a text
at the end of the first one and a text at the start of the second one are one text.

**Proof sketch.** Induction on the run over the first source. What follows a tag in it ends with
the newline, since no tag does; so every step goes through unchanged when the second source
follows. Behind the last tag, the second source stands behind the rest of a line, or, if nothing
is left, at the start of one. -/
theorem Scanned.append {d : Delimiters} {pos : Position} {text : List Char} {tokens : List Token}
    (h : Scanned d pos text tokens) (hd : d.IsPlain) {k l : Nat}
    (hpos : pos.advance text = Position.start.shift k l) {more : List Char} {tokens' : List Token}
    (hmore : Scanned (d.after tokens) .start more tokens') :
    ∃ init e spot u v rest, tokens = init ++ textToken e spot u ∧
      tokens' = textToken e .start v ++ rest ∧
      Scanned d pos (text ++ more)
        (init ++ textToken e spot (u ++ v) ++ rest.map (Token.shift k l)) := by
  induction h with
  | @last d pos text found =>
    rw [Delimiters.after_textToken] at hmore
    rcases (Position.column_advance_eq_zero_iff pos text).1 (by rw [hpos]; rfl) with
      ⟨rfl, -⟩ | hline
    · refine ⟨[], d, pos, [], [], tokens', rfl, rfl, ?_⟩
      rw [show pos = Position.start.shift k l from hpos]
      exact hmore.shift k l
    · obtain ⟨v, rest, htokens', hrun⟩ := hmore.behind_line hd hpos hline found
      exact ⟨[], d, pos, text, v, rest, rfl, htokens', hrun⟩
  | @tag d changed pos text before body tag tokens found read change rest ih =>
    rw [Delimiters.after_append, Delimiters.after_tagTokens change] at hmore
    have hrest : (positionAfter d pos before tag (marginsOf pos before tag)).advance
        (restAfter tag (marginsOf pos before tag)) = Position.start.shift k l := by
      rw [advance_positionAfter found read, hpos]
    have hline : tag.rest.getLast? = some '\n' := by
      refine getLast?_rest hd found read ?_
      rcases (Position.column_advance_eq_zero_iff pos text).1 (by rw [hpos]; rfl) with
        ⟨rfl, -⟩ | hline
      · have hnil := eq_append_of_readTag found read
        simp [hd.opening.1] at hnil
      · exact hline
    obtain ⟨init, e, spot, u, v, rest', rfl, htokens', hrun⟩ :=
      ih (Delimiters.isPlain_of_delimsAfter change hd) hrest hmore
    refine ⟨tagTokens d pos before tag (marginsOf pos before tag) ++ init, e, spot, u, v, rest',
      ?_, htokens', ?_⟩
    · rw [List.append_assoc]
    · rw [List.append_assoc, List.append_assoc, ← List.append_assoc init]
      exact .tag_append hd found read change hline Text.isMargin_newline (by decide) hrun

end Mustache
