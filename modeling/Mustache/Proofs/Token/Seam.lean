import Mustache.Proofs.Token.CommentLine
import Mustache.Proofs.Token.Flush
import Mustache.Proofs.Token.Margins
import Mustache.Proofs.Tree.Like

/-!
# Scanning across a seam

A tag in the midst of a line may give way to a source of its own, if this source begins and ends
with characters that are neither blank nor part of a delimiter. No delimiter forms at such a seam,
and on either side of it every tag has the line to itself, or not, as before. So the tokens are
those of both sources, in which only the texts at the seams are one.

## Main definitions

* `Mustache.Text.StartsInk`, `Mustache.Text.EndsInk` — texts without a blank at an end.

## Main results

* `Mustache.Scanned.exists_front` — the run up to a tag, whatever follows.
* `Mustache.Scanned.behind` — a run behind a text in which nothing is a tag.
* `Mustache.Scanned.append_ink` — the run over two sources with a seam between them.
-/

namespace Mustache

/-! ## Texts that begin or end with ink -/

namespace Text

/-- The text begins with a character that is not blank. -/
def StartsInk (cs : List Char) : Prop := ∃ c, cs.head? = some c ∧ isBlank c = false

/-- The text ends with a character that is not blank. -/
def EndsInk (cs : List Char) : Prop := ∃ c, cs.getLast? = some c ∧ isBlank c = false

theorem IsWord.startsInk {w : List Char} (h : IsWord w) (more : List Char) :
    StartsInk (w ++ more) := by
  obtain ⟨c, cs, rfl⟩ := List.exists_cons_of_ne_nil h.1
  exact ⟨c, rfl, h.2 c List.mem_cons_self⟩

/-- A newline and a carriage return are blank. -/
theorem ne_of_not_isBlank {c : Char} (h : isBlank c = false) : c ≠ '\n' ∧ c ≠ '\r' := by
  constructor
  · rintro rfl
    simp [isBlank] at h
  · rintro rfl
    simp [isBlank] at h

/-- The last line of a text goes on with what holds no newline. -/
theorem lastLine_append {cs ds : List Char} (h : '\n' ∉ ds) :
    lastLine (cs ++ ds) = lastLine cs ++ ds := by
  have hall : ∀ c ∈ ds.reverse, (c != '\n') = true := by
    intro c hc
    have hne : c ≠ '\n' := fun heq => h (heq ▸ List.mem_reverse.1 hc)
    simpa using hne
  unfold lastLine
  rw [List.reverse_append, List.takeWhile_append_of_pos hall, List.reverse_append,
    List.reverse_reverse]

/-- A text that ends with ink has some on its last line. -/
theorem EndsInk.exists_mem_lastLine {cs : List Char} (h : EndsInk cs) :
    ∃ c ∈ lastLine cs, isBlank c = false := by
  obtain ⟨c, hc, hink⟩ := h
  obtain ⟨init, rfl⟩ := List.getLast?_eq_some_iff.1 hc
  have hne : '\n' ∉ [c] := by
    rw [List.mem_singleton]
    exact (ne_of_not_isBlank hink).1.symm
  exact ⟨c, by rw [lastLine_append hne]; simp, hink⟩

/-- A pattern does not occur across the start of what it does not hold. -/
theorem cut?_concat_eq_none {pattern text : List Char} {c : Char} (h : cut? pattern text = none)
    (hc : c ∉ pattern) : cut? pattern (text ++ [c]) = none := by
  refine cut?_eq_none_iff.2 fun i hocc => ?_
  by_cases hend : i + pattern.length ≤ text.length
  · exact cut?_eq_none_iff.1 h i (hocc.of_append hend)
  · by_cases hi : i ≤ text.length
    · obtain ⟨d, hd, hget⟩ := hocc.mem_of_lt hi (by omega)
      simp only [List.getElem?_append_right, le_refl, Nat.sub_self, List.getElem?_cons_zero,
        Option.some.injEq] at hget
      exact hc (hget ▸ hd)
    · have hp : pattern = [] := by
        have hlen := hocc.length_le
        rw [List.length_drop, List.length_append, List.length_singleton] at hlen
        exact List.eq_nil_of_length_eq_zero (by omega)
      exact cut?_eq_none_iff.1 h 0 (hp ▸ List.nil_prefix)

/-- In front of a text that begins with what the pattern does not hold, nothing more is found. -/
theorem cut?_append_of_head {pattern text more : List Char} {c : Char}
    (h : cut? pattern text = none) (hmore : more.head? = some c) (hc : c ∉ pattern) :
    cut? pattern (text ++ more) =
      (cut? pattern more).map fun parts => (text ++ parts.1, parts.2) := by
  obtain ⟨rest, rfl⟩ := List.head?_eq_some_iff.1 hmore
  have hnil : cut? pattern [] = none := by
    cases pattern with
    | nil => exact absurd (List.nil_prefix) (cut?_eq_none_iff.1 h 0)
    | cons p ps => rfl
  have hboth := cut?_append_of_eq_none (cut?_concat_eq_none h hc) hc rest
  have hone := cut?_append_of_eq_none (cut?_concat_eq_none hnil hc) hc rest
  rw [List.append_assoc, List.singleton_append] at hboth
  rw [List.nil_append, List.singleton_append] at hone
  rw [hboth, hone, Option.map_map]
  simp [Function.comp_def]

end Text

/-! ## Margins at a seam -/

/-- The rest of a line is blank. -/
theorem isBlank_of_lineRest? {rest dropped left : List Char}
    (h : lineRest? rest = some (dropped, left)) {c : Char} (hc : c ∈ dropped) :
    Text.isBlank c = true := by
  obtain ⟨blanks, ending, hall, rfl, -, hend⟩ := lineRest?_eq_some_iff.1 h
  rcases List.mem_append.1 hc with hc | hc
  · exact Text.isBlank_of_isMargin (hall c hc)
  · rcases hend with rfl | rfl | ⟨rfl, -⟩
    · rw [List.mem_singleton.1 hc]
      decide
    · rcases List.mem_pair.1 hc with rfl | rfl <;> decide
    · simp at hc

/-- **The rest of a line does not depend on what begins with ink.** -/
theorem exists_lineRest?_append_eq (text : List Char) :
    ∃ parts : Option (List Char × List Char), ∀ more, Text.StartsInk more →
      lineRest? (text ++ more) = parts.map fun p => (p.1, p.2 ++ more) := by
  by_cases h : ∃ dropped left blanks ending : List Char, text = dropped ++ left ∧
      dropped = blanks ++ ending ∧ (∀ c ∈ blanks, Text.isMargin c = true) ∧
      (ending = ['\n'] ∨ ending = ['\r', '\n'])
  · -- The line ends in front.
    obtain ⟨dropped, left, blanks, ending, rfl, hdropped, hall, hend⟩ := h
    refine ⟨some (dropped, left), fun more _ => lineRest?_eq_some_iff.2
      ⟨blanks, ending, hall, hdropped, by rw [List.append_assoc], ?_⟩⟩
    exact hend.imp_right .inl
  · -- The line goes on with the ink.
    refine ⟨none, fun more hmore => ?_⟩
    rw [Option.map_none, Option.eq_none_iff_forall_ne_some]
    rintro ⟨dropped, left⟩ hline
    obtain ⟨c, hc, hink⟩ := hmore
    have hblank {d : Char} := @isBlank_of_lineRest? _ _ _ hline d
    obtain ⟨blanks, ending, hall, hdropped, heq, hend⟩ := lineRest?_eq_some_iff.1 hline
    rcases List.append_eq_append_iff.1 heq with ⟨front, rfl, hmore⟩ | ⟨front, rfl, -⟩
    · cases front with
      | nil =>
        rw [List.append_nil] at hdropped
        rw [List.nil_append] at hmore
        subst hmore
        rcases hend with hend | hend | ⟨-, rfl⟩
        · exact h ⟨text, [], blanks, ending, by simp, hdropped, hall, .inl hend⟩
        · exact h ⟨text, [], blanks, ending, by simp, hdropped, hall, .inr hend⟩
        · simp at hc
      | cons d front =>
        rw [hmore, List.cons_append, List.head?_cons, Option.some.injEq] at hc
        have := hblank (d := d) (by simp)
        rw [hc, hink] at this
        simp at this
    · rcases hend with hend | hend | ⟨-, hleft⟩
      · exact h ⟨dropped, front, blanks, ending, rfl, hdropped, hall, .inl hend⟩
      · exact h ⟨dropped, front, blanks, ending, rfl, hdropped, hall, .inr hend⟩
      · rw [hleft, List.append_assoc, List.append_cancel_left_eq] at heq
        rw [(List.append_eq_nil_iff.1 heq).2] at hc
        simp at hc

/-- **The margins of a tag do not depend on what begins with ink.** -/
theorem exists_marginsOf_followedBy_eq (pos : Position) (before : List Char) (tag : Tag) :
    ∃ margins : Option Margins, ∀ more, Text.StartsInk more →
      marginsOf pos before (tag.followedBy more) = margins.map (·.followedBy more) := by
  obtain ⟨parts, hparts⟩ := exists_lineRest?_append_eq tag.rest
  refine ⟨if !tag.kind.isInterpolation && (pos.column == 0 || before.contains '\n') &&
      (Text.lastLine before).all Text.isMargin then
    parts.map fun p => ⟨Text.lastLine before, p.1, p.2⟩ else none, fun more hmore => ?_⟩
  unfold marginsOf Tag.followedBy
  rw [standalone?_eq_ite, hparts more hmore]
  split
  · rw [Option.map_map, Option.map_map]
    rfl
  · rfl

/-- Behind a text a tag has the same margins as elsewhere, if there is ink between the text and the
tag, or if the text ends with ink and elsewhere no line starts. -/
theorem marginsOf_behind {line before : List Char} {pos p : Position}
    (h : Text.StartsInk before ∨ Text.EndsInk line ∧ p.column ≠ 0) (tag : Tag) :
    marginsOf pos (line ++ before) tag = marginsOf p before tag := by
  by_cases hnewline : '\n' ∈ before
  · obtain ⟨init, hinit⟩ := Text.exists_eq_append_lastLine hnewline
    have hlast : Text.lastLine (line ++ before) = Text.lastLine before := by
      rw [hinit, ← List.append_assoc, Text.lastLine_append_newline, Text.lastLine_append_newline]
    unfold marginsOf standalone?
    simp [hnewline, hlast]
  · -- In both cases there is something else on the line.
    have hink {cs : List Char} {m : Margins} {fresh : Bool} {c : Char}
        (hm : standalone? tag.kind fresh cs tag.rest = some m) (hc : c ∈ Text.lastLine cs) :
        Text.isBlank c = true := Text.isBlank_of_isMargin (isMargin_of_standalone? hm hc)
    have hleft : marginsOf pos (line ++ before) tag = none := by
      rw [Option.eq_none_iff_forall_ne_some]
      intro m hm
      have hblank {c : Char} := @hink _ m _ c hm
      rw [Text.lastLine_append hnewline] at hblank
      rcases h with ⟨c, hc, hc'⟩ | ⟨hline, -⟩
      · have := hblank (List.mem_append_right _ (List.mem_of_mem_head? hc))
        rw [hc'] at this
        simp at this
      · obtain ⟨c, hc, hc'⟩ := hline.exists_mem_lastLine
        have := hblank (List.mem_append_left _ hc)
        rw [hc'] at this
        simp at this
    have hright : marginsOf p before tag = none := by
      rw [Option.eq_none_iff_forall_ne_some]
      intro m hm
      rcases h with ⟨c, hc, hc'⟩ | ⟨-, hcolumn⟩
      · have hblank {c : Char} := @hink _ m _ c hm
        rw [Text.lastLine_eq_self hnewline] at hblank
        have := hblank (List.mem_of_mem_head? hc)
        rw [hc'] at this
        simp at this
      · obtain ⟨-, hfresh, -⟩ := standalone?_eq_some_iff.1 hm
        exact hcolumn (by simpa using hfresh.resolve_right hnewline)
    rw [hleft, hright]

/-! ## The same text elsewhere -/

/-- Tokens that are the same but for where they stand. -/
abbrev Elsewhere : List Token → List Token → Prop := List.Forall₂ (Token.Like Eq)

theorem elsewhere_textToken (d : Delimiters) (p q : Position) (cs : List Char) :
    Elsewhere (textToken d p cs) (textToken d q cs) := by
  unfold textToken
  split
  · exact .nil
  · exact .cons ⟨rfl, fun _ => rfl, fun _ _ _ => rfl, fun _ => rfl, rfl, rfl⟩ .nil

theorem like_tagToken (d : Delimiters) (p q : Position) (before before' : List Char) (tag : Tag)
    (margins : Option Margins) :
    (tagToken d p before tag margins).Like Eq (tagToken d q before' tag margins) :=
  ⟨rfl, fun _ => rfl, fun _ _ _ => rfl, fun _ => rfl, rfl, rfl⟩

theorem elsewhere_refl (tokens : List Token) : Elsewhere tokens tokens :=
  List.forall₂_same.2 fun _ _ => ⟨rfl, fun _ => rfl, fun _ _ _ => rfl, fun _ => rfl, rfl, rfl⟩

/-- **The same text elsewhere**, where a line starts as well, or not. -/
theorem Scanned.elsewhere {d : Delimiters} {p q : Position} {text : List Char}
    {tokens : List Token} (h : Scanned d p text tokens) (hd : d.IsPlain)
    (hcolumn : p.column = 0 ↔ q.column = 0) :
    ∃ tokens', Scanned d q text tokens' ∧ Elsewhere tokens tokens' := by
  induction h generalizing q with
  | @last d p text found => exact ⟨_, .last found, elsewhere_textToken d p q text⟩
  | @tag d changed p text before body tag tokens found read change rest ih =>
    have hmargins : marginsOf p before tag = marginsOf q before tag :=
      marginsOf_congr tag (.inl hcolumn)
    rw [hmargins] at ih ⊢
    obtain ⟨tokens', hrun, hsame⟩ := ih (Delimiters.isPlain_of_delimsAfter change hd)
      (column_positionAfter_eq_zero_iff hd p q before before tag _)
    refine ⟨_, .tag found read change hrun, ?_⟩
    rw [tagTokens_eq, tagTokens_eq]
    exact List.rel_append (List.rel_append (elsewhere_textToken d p q _)
      (.cons (like_tagToken d p q before before tag _) .nil)) hsame

/-! ## Behind a text -/

/-- **A run behind a text** in which nothing is a tag: if the first tag that follows is found and
has the same margins, the text joins the text in front of this tag, and from there on all is as
before. -/
theorem Scanned.behind {d : Delimiters} {p pos : Position} {line more : List Char}
    {tokens : List Token} (h : Scanned d p more tokens) (hd : d.IsPlain)
    (hcut : Text.cut? d.opening.toList (line ++ more) =
      (Text.cut? d.opening.toList more).map fun parts => (line ++ parts.1, parts.2))
    (hmargins : ∀ before body, Text.cut? d.opening.toList more = some (before, body) →
      ∀ tag, marginsOf pos (line ++ before) tag = marginsOf p before tag) :
    ∃ v rest rest', tokens = textToken d p v ++ rest ∧
      Scanned d pos (line ++ more) (textToken d pos (line ++ v) ++ rest') ∧
      Elsewhere rest rest' ∧ (rest = [] → v = more) := by
  cases h with
  | last found =>
    rw [found] at hcut
    refine ⟨more, [], [], (List.append_nil _).symm, ?_, .nil, fun _ => rfl⟩
    rw [List.append_nil]
    exact .last hcut
  | @tag _ changed _ _ before body tag tokens found read change rest =>
    rw [found] at hcut
    have hsame := hmargins before body found tag
    obtain ⟨tokens', hrun, helsewhere⟩ := rest.elsewhere
      (Delimiters.isPlain_of_delimsAfter change hd)
      (column_positionAfter_eq_zero_iff hd p pos before (line ++ before) tag _)
    rw [← hsame] at hrun
    refine ⟨keptBefore before (marginsOf p before tag),
      tagToken d p before tag (marginsOf p before tag) :: tokens,
      tagToken d pos (line ++ before) tag (marginsOf p before tag) :: tokens', ?_, ?_, ?_, nofun⟩
    · rw [tagTokens_eq, List.append_assoc, List.singleton_append]
    · have hstep : Scanned d pos (line ++ more) _ := .tag hcut read change hrun
      rwa [tagTokens_eq, hsame, keptBefore_append, List.append_assoc, List.singleton_append]
        at hstep
    · exact .cons (like_tagToken d p pos before (line ++ before) tag _) helsewhere

/-- What begins with ink, behind a text. -/
theorem Scanned.behind_of_startsInk {d : Delimiters} {p : Position} {line more : List Char}
    {tokens : List Token} (h : Scanned d p more tokens) (pos : Position) (hd : d.IsPlain)
    (hnone : Text.cut? d.opening.toList line = none) {c : Char} (hmore : more.head? = some c)
    (hink : Text.isBlank c = false) (hc : c ∉ d.opening.toList) :
    ∃ v rest rest', tokens = textToken d p v ++ rest ∧
      Scanned d pos (line ++ more) (textToken d pos (line ++ v) ++ rest') ∧
      Elsewhere rest rest' ∧ (rest = [] → v = more) := by
  refine h.behind hd (Text.cut?_append_of_head hnone hmore hc) fun before body found tag =>
    marginsOf_behind (.inl ⟨c, ?_, hink⟩) tag
  have htext := Text.eq_append_of_cut?_eq_some found
  cases before with
  | nil =>
    obtain ⟨o, os, hopening⟩ := List.exists_cons_of_ne_nil hd.opening.1
    rw [htext, hopening] at hmore
    rw [hopening] at hc
    simp_all
  | cons b before =>
    rw [htext] at hmore
    exact hmore

/-! ## Two sources with a seam between them -/

/-- Nothing has no tokens. -/
theorem Scanned.eq_nil {d : Delimiters} {pos : Position} {tokens : List Token}
    (h : Scanned d pos [] tokens) (hd : d.IsPlain) : tokens = [] := by
  cases h with
  | last _ => rfl
  | tag found _ _ _ =>
    have htext := Text.eq_append_of_cut?_eq_some found
    simp [hd.opening.1] at htext

/-- If a text is the last token, there are tokens behind the tag. -/
theorem exists_last_text_of_tagTokens {d : Delimiters} {pos : Position} {before body : List Char}
    {tag : Tag} {margins : Option Margins} {tokens : List Token} (read : readTag d body = .ok tag)
    (h : ∃ t, (tagTokens d pos before tag margins ++ tokens).getLast? = some t ∧ t.kind = .text) :
    ∃ t, tokens.getLast? = some t ∧ t.kind = .text := by
  obtain ⟨t, ht, hkind⟩ := h
  cases htokens : tokens.getLast? with
  | some u =>
    rw [List.getLast?_append, htokens, Option.some_or] at ht
    exact ⟨t, ht, hkind⟩
  | none =>
    rw [List.getLast?_append, htokens, Option.none_or, tagTokens_eq, List.getLast?_append,
      List.getLast?_singleton, Option.some_or, Option.some.injEq] at ht
    rw [← ht] at hkind
    exact absurd hkind (kind_ne_text_of_readTag read)

/-- **The run over two sources with a seam between them.** If the first one ends with a text of
which the last character is not blank and is not part of an opening delimiter, and the second one is
scanned where no line starts, then their tokens follow one another; only the texts at the seam are
one.

**Proof sketch.** Induction on the run over the first source. What follows a tag in it ends with the
same character, so that every step goes through when the second source follows. Behind the last tag,
the second source stands behind a text. -/
theorem Scanned.append_ink {d : Delimiters} {pos p : Position} {text more : List Char}
    {tokens tokens' : List Token} (h : Scanned d pos text tokens) (hd : d.IsPlain) {c : Char}
    (hlast : text.getLast? = some c) (hink : Text.isBlank c = false)
    (hc : c ∉ (d.after tokens).opening.toList)
    (htext : ∃ t, tokens.getLast? = some t ∧ t.kind = .text)
    (hmore : Scanned (d.after tokens) p more tokens') (hp : p.column ≠ 0) :
    ∃ init e spot u v rest rest', tokens = init ++ textToken e spot u ∧
      tokens' = textToken e p v ++ rest ∧
      Scanned d pos (text ++ more) (init ++ textToken e spot (u ++ v) ++ rest') ∧
      Elsewhere rest rest' := by
  induction h with
  | @last d pos text found =>
    rw [Delimiters.after_textToken] at hmore hc
    obtain ⟨init, hinit⟩ := List.getLast?_eq_some_iff.1 hlast
    have hcut : Text.cut? d.opening.toList (text ++ more) =
        (Text.cut? d.opening.toList more).map fun parts => (text ++ parts.1, parts.2) := by
      subst hinit
      exact Text.cut?_append_of_eq_none found hc more
    obtain ⟨v, rest, rest', htokens', hrun, hsame, -⟩ := hmore.behind hd hcut
      fun before _ _ tag => marginsOf_behind (.inr ⟨⟨c, hlast, hink⟩, hp⟩) tag
    exact ⟨[], d, pos, text, v, rest, rest', rfl, htokens', hrun, hsame⟩
  | @tag d changed pos text before body tag tokens found read change rest ih =>
    rw [Delimiters.after_append, Delimiters.after_tagTokens change] at hmore hc
    have hplain := Delimiters.isPlain_of_delimsAfter change hd
    have htext' := exists_last_text_of_tagTokens read htext
    -- Something is left behind the tag, and it ends as the source does.
    obtain ⟨l, hl⟩ : ∃ l, (restAfter tag (marginsOf pos before tag)).getLast? = some l := by
      cases hleft : (restAfter tag (marginsOf pos before tag)).getLast? with
      | some l => exact ⟨l, rfl⟩
      | none =>
        rw [List.getLast?_eq_none_iff] at hleft
        rw [hleft] at rest
        obtain ⟨t, ht, -⟩ := htext'
        rw [rest.eq_nil hplain] at ht
        simp at ht
    have hrestLast : tag.rest.getLast? = some l := by
      rw [rest_eq_append_restAfter pos before tag]
      exact getLast?_append_of_eq_some hl _
    have hsplit := eq_append_of_readTag found read
    obtain rfl : l = c := by
      rw [hsplit, getLast?_append_of_eq_some hrestLast, Option.some.injEq] at hlast
      exact hlast
    obtain ⟨init, e, spot, u, v, others, others', rfl, htokens', hrun, hsame⟩ :=
      ih hplain hl hc htext' hmore
    refine ⟨tagTokens d pos before tag (marginsOf pos before tag) ++ init, e, spot, u, v, others,
      others', ?_, htokens', ?_, hsame⟩
    · rw [List.append_assoc]
    · rw [List.append_assoc, List.append_assoc, ← List.append_assoc init]
      exact .tag_append hd found read change hrestLast (Text.isMargin_of_not_isBlank hink)
        (Text.ne_of_not_isBlank hink).2 hrun

/-! ## Up to a tag -/

/-- At a tag the source goes on with an opening delimiter, thus with ink. -/
theorem Scanned.startsInk_drop {source : List Char} {d : Delimiters} {pos : Position}
    {text : List Char} {tokens : List Token} (h : Scanned d pos text tokens) (hd : d.IsPlain)
    (hsource : source.drop pos.offset = text) {tok : Token} (htok : tok ∈ tokens)
    (hkind : tok.kind ≠ .text) : Text.StartsInk (source.drop tok.start) := by
  induction h with
  | last _ => exact absurd (kind_of_mem_textToken htok) hkind
  | @tag d changed pos text before body tag tokens found read change rest ih =>
    rcases mem_tagTokens_append_iff.1 htok with htok | rfl | htok
    · exact absurd (kind_of_mem_textToken htok) hkind
    · rw [start_tagToken, ← List.drop_drop, hsource, Text.eq_append_of_cut?_eq_some found,
        List.append_assoc, List.drop_left]
      exact hd.opening.startsInk body
    · exact ih (Delimiters.isPlain_of_delimsAfter change hd)
        (drop_offset_positionAfter hsource found read) htok

/-- No line starts behind a tag without margins. -/
theorem column_positionAfter_none_ne_zero {d : Delimiters} {body : List Char} {tag : Tag}
    (hd : d.IsPlain) (read : readTag d body = .ok tag) (pos : Position) (before : List Char) :
    (positionAfter d pos before tag none).column ≠ 0 := by
  obtain ⟨c, hc, hblank⟩ := exists_getLast?_consumed hd read
  unfold positionAfter
  rw [Option.map_none, Option.getD_none, List.append_nil, ne_eq,
    Position.column_advance_eq_zero_iff, getLast?_append_of_eq_some hc, Option.some.injEq]
  rintro (⟨hnil, -⟩ | hnewline)
  · exact hd.opening.1 (List.append_eq_nil_iff.1 hnil).1
  · exact (Text.ne_of_not_isBlank hblank).1 hnewline

/-- What is in front of a tag and behind it, given the lengths. -/
theorem parts_eq_of_readTag {d : Delimiters} {a t b before body : List Char} {tag : Tag}
    (found : Text.cut? d.opening.toList (a ++ (t ++ b)) = some (before, body))
    (read : readTag d body = .ok tag) (hlen : before.length = a.length)
    (ht : t.length = (d.opening.toList ++ tag.consumed).length) : before = a ∧ tag.rest = b := by
  have hopen := Text.eq_append_of_cut?_eq_some found
  have hsplit := eq_append_of_readTag found read
  rw [List.append_assoc] at hopen
  obtain ⟨rfl, -⟩ := List.append_inj hopen hlen.symm
  rw [List.append_assoc, List.append_assoc, List.append_cancel_left_eq,
    ← List.append_assoc] at hsplit
  exact ⟨rfl, (List.append_inj_right hsplit ht).symm⟩

/-- A tag in the midst of a line has no margins. -/
theorem Resumes.marginsOf_eq_none {source text before body : List Char} {all tokens : List Token}
    {floor : Nat} {d : Delimiters} {pos : Position} {tag : Tag}
    (h : Resumes source all floor pos
      (tagTokens d pos before tag (marginsOf pos before tag) ++ tokens))
    (hsource : source.drop pos.offset = text)
    (found : Text.cut? d.opening.toList text = some (before, body))
    (read : readTag d body = .ok tag) (hd : d.IsPlain)
    (hnext : ∀ u ∈ tokens, (tagToken d pos before tag (marginsOf pos before tag)).start ≤ u.start)
    (halone : ∀ first last, ¬ StandsAlone source all
      (tagToken d pos before tag (marginsOf pos before tag)) first last) :
    marginsOf pos before tag = none := by
  have hiff := @Resumes.standsAlone_iff _ _ _ _ _ _ _ _ _ _ h hsource found read hd hnext
  have hkept := congrArg List.length (keptBefore_append_droppedBefore pos before tag)
  have hstart := start_tagToken d pos before tag (marginsOf pos before tag)
  rw [List.length_append] at hkept
  cases hm : marginsOf pos before tag with
  | none => rfl
  | some m =>
    rw [hm] at hkept hstart
    simp only [droppedBefore, Option.map_some, Option.getD_some] at hkept
    refine absurd (hiff.2 ⟨m, hm, ?_, rfl⟩)
      (halone (pos.offset + (keptBefore before (some m)).length) _)
    rw [hm]
    omega

/-- **The run up to a tag** that stands in the midst of a line. What follows the tag is scanned on
its own, from where no line starts; and the run up to the tag is the same if any text that begins
with ink takes its place.

**Proof sketch.** Induction on the run. A tag in front is read from the text in front alone, and its
margins do not depend on what begins with ink. -/
theorem Scanned.exists_front {source : List Char} {all : List Token} {floor : Nat}
    {d : Delimiters} {pos : Position} {a t b : List Char} {tokens : List Token} {tok : Token}
    (h : Scanned d pos (a ++ (t ++ b)) tokens) (hd : d.IsPlain)
    (hsource : source.drop pos.offset = a ++ (t ++ b)) (hres : Resumes source all floor pos tokens)
    (htok : tok ∈ tokens) (hkind : tok.kind ≠ .text) (hchange : tok.kind ≠ .delimiterChange)
    (hstart : tok.start = pos.offset + a.length) (hstop : tok.stop = tok.start + t.length)
    (halone : ∀ first last, ¬ StandsAlone source all tok first last) :
    ∃ init spot u p rest, tokens = init ++ (textToken tok.delims spot u ++ tok :: rest) ∧
      d.after init = tok.delims ∧ Text.cut? tok.delims.opening.toList u = none ∧
      Scanned tok.delims p b rest ∧ p.column ≠ 0 ∧
      ∀ y ts, Text.StartsInk y → Scanned tok.delims spot (u ++ y) ts →
        Scanned d pos (a ++ y) (init ++ ts) := by
  have hink : Text.StartsInk (t ++ b) := by
    have hdrop := h.startsInk_drop hd hsource htok hkind
    rwa [hstart, ← List.drop_drop, hsource, List.drop_left] at hdrop
  generalize htext : a ++ (t ++ b) = text at h hsource
  induction h generalizing a floor with
  | last _ => exact absurd (kind_of_mem_textToken htok) hkind
  | @tag d changed pos text before body tag tokens found read change rest ih =>
    have hdrop := drop_offset_positionAfter hsource found read
    have hplain := Delimiters.isPlain_of_delimsAfter change hd
    have hbounds := (rest.ordered hdrop hplain).1
    have hafter := offset_positionAfter d pos before tag (marginsOf pos before tag)
    have hstart' := start_tagToken d pos before tag (marginsOf pos before tag)
    have hstop' := stop_tagToken d pos before tag (marginsOf pos before tag)
    have hsplit := eq_append_of_readTag found read
    rcases mem_tagTokens_append_iff.1 htok with hmem | rfl | hmem
    · exact absurd (kind_of_mem_textToken hmem) hkind
    · -- The tag is read.
      have hnone := hres.marginsOf_eq_none hsource found read hd
        (fun u hu => by have := (hbounds u hu).1; omega) halone
      rw [hnone] at hstart hstop hstart' hstop' rest hkind hchange ⊢
      have hlength : t.length = (d.opening.toList ++ tag.consumed).length := by
        rw [List.length_append]
        omega
      subst htext
      obtain ⟨rfl, rfl⟩ := parts_eq_of_readTag found read (by omega) hlength
      obtain ⟨hk, -⟩ | ⟨-, rfl⟩ := Delimiters.delimsAfter_eq_ok_iff.1 change
      · exact absurd hk hchange
      have hpos := List.length_pos_iff.2 hd.opening.1
      refine ⟨[], pos, before, positionAfter changed pos before tag none, tokens, ?_, rfl, ?_, rest,
        ?_, fun y ts _ hrun => hrun⟩
      · rw [tagTokens_eq, List.append_assoc]
        simp [keptBefore, droppedBefore, tagToken]
      · show Text.cut? changed.opening.toList before = none
        exact Text.cut?_eq_none_of_append found hd.opening.1 (by omega)
      · exact column_positionAfter_none_ne_zero hd read pos before
    · -- Another tag is read.
      have hle := (hbounds tok hmem).1
      have hlen := congrArg List.length htext
      have hpos := List.length_pos_iff.2 hd.opening.1
      subst htext
      obtain ⟨body', tag', rfl, rfl, found', read'⟩ :=
        exists_readTag_of_append hd found read (by omega)
      obtain ⟨m, hm⟩ := exists_marginsOf_followedBy_eq pos before tag'
      have hrests := congrArg List.length
        (rest_eq_append_restAfter pos before (tag'.followedBy (t ++ b)))
      have hnext := hres.next hsource found read hd fun u hu => (hbounds u hu).1
      rw [hm _ hink] at hnext hdrop hafter hstop' hrests ih ⊢
      rw [restAfter_followedBy] at hdrop hrests ih
      rw [positionAfter_followedBy] at hnext hdrop hafter ih
      have hoffset : tok.start = (positionAfter d pos before tag' m).offset +
          (restAfter tag' m).length := by
        have htotal := congrArg List.length hsplit
        simp only [List.length_append] at htotal hrests
        rw [hstop'] at hafter
        omega
      obtain ⟨init, spot, u, p, others, rfl, hdelims, hnone, hrun, hp, hany⟩ :=
        ih hplain hnext hmem hoffset rfl hdrop
      refine ⟨tagTokens d pos before (tag'.followedBy (t ++ b))
        (m.map (·.followedBy (t ++ b))) ++ init, spot, u, p, others, by rw [List.append_assoc], ?_,
          hnone, hrun, hp, ?_⟩
      · rw [Delimiters.after_append, Delimiters.after_tagTokens change, hdelims]
      · intro y ts hy hts
        have hbehind := hany y ts hy hts
        rw [tagTokens_followedBy, List.append_assoc, ← tagTokens_followedBy _ y, ← hm y hy]
        refine .tag (Text.cut?_append found' y) (readTag_append hd read' y) change ?_
        rwa [hm y hy, positionAfter_followedBy, restAfter_followedBy]

end Mustache
