import Mustache.Proofs.Token.Boundary
import Mustache.Proofs.Token.Decomposition

/-!
# Scanning the text between two tags

The text between two tags of a source may be scanned on its own. It then has the tags that it has
in the source: a tag is read from its own characters only. What may differ are the margins. At the
start of the text a line seems to begin and at its end one seems to end, so that a tag may have its
line to itself there and not in the source, and the other way round. Hence the texts between the
tags agree up to what is dropped at the lines of tags.

## Main definitions

* `Mustache.Text.LeftOf` — what is left of the text between two tags.
* `Mustache.Aligned` — token lists with the same tags and, but for what is dropped, the same texts.

## Main results

* `Mustache.readTag_of_append`, `Mustache.exists_readTag_of_append` — a tag is read from its own
  characters.
* `Mustache.Scanned.slice` — the run over the text in front of a tag.
-/

namespace Mustache

/-! ## What is left between tags -/

/-- **What may be left of the text between two tags**: all of it, or what remains without the rest
of the line of the first tag, and without the blanks in front of the second tag on its line. -/
def Text.LeftOf (gap left : List Char) : Prop :=
  ∃ front back, gap = front ++ left ++ back ∧
    (front = [] ∨ ∃ others, lineRest? gap = some (front, others)) ∧
    (back = [] ∨ (∀ c ∈ back, Text.isMargin c = true) ∧
      (left = [] ∨ left.getLast? = some '\n'))

/-- What the scanner may skip behind a tag: nothing, or the rest of the line. -/
structure Skipped (rest front : List Char) : Prop where
  line : front = [] ∨ ∃ left, lineRest? rest = some (front, left)
  isBlank : ∀ c ∈ front, Text.isBlank c = true

theorem skipped_nil (rest : List Char) : Skipped rest [] := ⟨.inl rfl, by simp⟩

/-- What the scanner drops behind a tag is skipped. -/
theorem skipped_droppedAfter (pos : Position) (before : List Char) (tag : Tag) :
    Skipped tag.rest (droppedAfter (marginsOf pos before tag)) := by
  refine ⟨?_, fun c => isBlank_of_mem_droppedAfter⟩
  unfold droppedAfter
  cases h : marginsOf pos before tag with
  | none => exact .inl rfl
  | some m =>
    obtain ⟨-, -, -, -, hrest⟩ := standalone?_eq_some_iff.1 h
    exact .inr ⟨m.rest, hrest⟩

/-- The rest of a line ends in front of what is not blank. -/
theorem Skipped.of_append {gap front more : List Char} (h : Skipped (front ++ gap ++ more) front)
    (hmore : more ≠ []) : Skipped (front ++ gap) front := by
  refine ⟨h.line.imp_right ?_, h.isBlank⟩
  rintro ⟨left, hleft⟩
  obtain ⟨blanks, ending, hall, hfront, heq, hend⟩ := lineRest?_eq_some_iff.1 hleft
  rw [List.append_assoc, List.append_cancel_left_eq] at heq
  refine ⟨gap, lineRest?_eq_some_iff.2 ⟨blanks, ending, hall, hfront, rfl, ?_⟩⟩
  refine hend.imp_right (Or.imp_right ?_)
  rintro ⟨-, rfl⟩
  exact absurd (List.append_eq_nil_iff.1 heq).2 hmore

/-- If something is dropped in front of a tag, what is kept is nothing or ends with a line. -/
theorem droppedBefore_cases (pos : Position) (before : List Char) (tag : Tag) :
    droppedBefore (marginsOf pos before tag) = [] ∨
      (∀ c ∈ droppedBefore (marginsOf pos before tag), Text.isMargin c = true) ∧
        (keptBefore before (marginsOf pos before tag) = [] ∨
          (keptBefore before (marginsOf pos before tag)).getLast? = some '\n') := by
  have happ := keptBefore_append_droppedBefore pos before tag
  unfold droppedBefore at happ ⊢
  cases hm : marginsOf pos before tag with
  | none => exact .inl rfl
  | some m =>
    obtain ⟨-, -, hbefore, hall, -⟩ := standalone?_eq_some_iff.1 hm
    refine .inr ⟨hall, ?_⟩
    rw [hm, Option.map_some, Option.getD_some, hbefore] at happ
    by_cases hnewline : '\n' ∈ before
    · obtain ⟨init, hinit⟩ := Text.exists_eq_append_lastLine hnewline
      have hkept : keptBefore before (some m) = init ++ ['\n'] := by
        refine List.append_cancel_right (happ.trans (hinit.trans ?_))
        rw [List.append_assoc, List.singleton_append]
      rw [hkept, List.getLast?_concat]
      exact .inr rfl
    · rw [Text.lastLine_eq_self hnewline] at happ
      exact .inl (List.append_left_eq_self.1 happ)

/-- What is kept in front of a tag is left of the text up to the previous tag. -/
theorem leftOf_keptBefore {front before : List Char} (h : Skipped (front ++ before) front)
    (pos : Position) (tag : Tag) :
    Text.LeftOf (front ++ before) (keptBefore before (marginsOf pos before tag)) := by
  refine ⟨front, droppedBefore (marginsOf pos before tag), ?_, h.line,
    droppedBefore_cases pos before tag⟩
  rw [List.append_assoc, keptBefore_append_droppedBefore]

/-- All that follows a tag is left if nothing but the rest of its line is skipped. -/
theorem leftOf_of_skipped {front left : List Char} (h : Skipped (front ++ left) front) :
    Text.LeftOf (front ++ left) left :=
  ⟨front, [], (List.append_nil _).symm, h.line, .inl rfl⟩

/-! ## Steps when the source ends earlier -/

namespace Text

variable {pattern text more before after : List Char}

/-- A cut is made in what remains of a text if the occurrence remains. -/
theorem cut?_of_append (h : cut? pattern (text ++ more) = some (before, after))
    (hlen : before.length + pattern.length ≤ text.length) :
    ∃ rest, after = rest ++ more ∧ cut? pattern text = some (before, rest) := by
  obtain ⟨heq, hfirst⟩ := cut?_eq_some_iff.1 h
  obtain ⟨rest, rfl⟩ : before ++ pattern <+: text := by
    refine List.prefix_of_prefix_length_le ⟨after, heq.symm⟩ (List.prefix_append _ _) ?_
    rwa [List.length_append]
  rw [List.append_assoc (before ++ pattern), List.append_cancel_left_eq] at heq
  refine ⟨rest, heq.symm, cut?_eq_some_iff.2 ⟨rfl, fun i hi hocc => hfirst i hi ?_⟩⟩
  exact OccursAt.append hocc more

/-- No cut is made in what remains of a text in front of the end of the occurrence. -/
theorem cut?_eq_none_of_append (h : cut? pattern (text ++ more) = some (before, after))
    (hp : pattern ≠ []) (hlen : text.length < before.length + pattern.length) :
    cut? pattern text = none := by
  obtain ⟨-, hfirst⟩ := cut?_eq_some_iff.1 h
  refine cut?_eq_none_iff.2 fun i hocc => hfirst i ?_ (OccursAt.append hocc more)
  have := hocc.add_length_le hp
  omega

/-- A word does not occur in blanks, nor across their end. -/
theorem cut?_blank_append {front : List Char} (hp : IsWord pattern)
    (hfront : ∀ c ∈ front, isBlank c = true) :
    cut? pattern (front ++ text) =
      (cut? pattern text).map fun parts => (front ++ parts.1, parts.2) := by
  induction front with
  | nil => simp
  | cons c front ih =>
    rw [List.forall_mem_cons] at hfront
    have hnone : behind? pattern (c :: (front ++ text)) = none := by
      cases hb : behind? pattern (c :: (front ++ text)) with
      | none => rfl
      | some rest =>
        obtain ⟨p, ps, rfl⟩ := List.exists_cons_of_ne_nil hp.1
        have heq := behind?_eq_some_iff.1 hb
        rw [List.cons_append, List.cons.injEq] at heq
        have hword := hp.2 p List.mem_cons_self
        rw [← heq.1, hfront.1] at hword
        simp at hword
    rw [List.cons_append, cut?, hnone, ih hfront.2, Option.map_map]
    rfl

end Text

/-- The sigil of a text is that of a part at its start. -/
theorem SigilOf.of_append {text more sigil : List Char} {kind : TokenKind}
    (h : SigilOf (text ++ more) sigil kind) (hne : text ≠ []) : SigilOf text sigil kind := by
  obtain ⟨c, cs, rfl⟩ := List.exists_cons_of_ne_nil hne
  rw [List.cons_append] at h
  cases h with
  | char hmem => exact .char hmem
  | absent hno => exact .absent hno

/-- **A tag is read from its own characters**: it is read as before when the source ends earlier,
but not within the tag. -/
theorem readTag_of_append {d : Delimiters} {body more : List Char} {tag : Tag} (hd : d.IsPlain)
    (h : readTag d (body ++ more) = .ok tag) (hlen : tag.consumed.length ≤ body.length) :
    ∃ rest, tag.rest = rest ++ more ∧ readTag d body = .ok { tag with rest } := by
  obtain ⟨sigil, inner, hsigil, heq, hfirst, hvalue, hconsumed, hempty⟩ := readTag_eq_ok_iff.1 h
  have hbody : body ++ more = tag.consumed ++ tag.rest := by
    rw [hsigil.eq_append_drop, heq, hconsumed]
    simp only [List.append_assoc]
  obtain ⟨rest, rfl⟩ : tag.consumed <+: body :=
    List.prefix_of_prefix_length_le ⟨_, hbody.symm⟩ (List.prefix_append _ _) hlen
  rw [List.append_assoc, List.append_cancel_left_eq] at hbody
  have hne : tag.consumed ++ rest ≠ [] := by
    rw [hconsumed]
    simp [closerOf_ne_nil hd]
  have hdrop : (tag.consumed ++ rest).drop sigil.length = inner ++ closerOf d sigil ++ rest := by
    rw [hconsumed]
    simp
  refine ⟨rest, hbody.symm, readTag_eq_ok_iff.2 ⟨sigil, inner, hsigil.of_append hne, hdrop,
    fun i hi hocc => hfirst i hi ?_, hvalue, hconsumed, hempty⟩⟩
  rw [hdrop] at hocc
  rw [heq, ← hbody, ← List.append_assoc]
  exact Text.OccursAt.append hocc more

/-- **A tag is found in the text that it ends in**: it is found and read as before when the source
ends earlier, but not in front of its end. -/
theorem exists_readTag_of_append {d : Delimiters} {text more before body : List Char} {tag : Tag}
    (hd : d.IsPlain) (found : Text.cut? d.opening.toList (text ++ more) = some (before, body))
    (read : readTag d body = .ok tag)
    (hlen : before.length + d.opening.toList.length + tag.consumed.length ≤ text.length) :
    ∃ body' tag', body = body' ++ more ∧ tag = tag'.followedBy more ∧
      Text.cut? d.opening.toList text = some (before, body') ∧ readTag d body' = .ok tag' := by
  obtain ⟨body', rfl, found'⟩ := Text.cut?_of_append found (by omega)
  have hbody := congrArg List.length (Text.eq_append_of_cut?_eq_some found')
  simp only [List.length_append] at hbody
  obtain ⟨rest', hrest', read'⟩ := readTag_of_append hd read (by omega)
  exact ⟨body', { tag with rest := rest' }, rfl, by rw [Tag.followedBy, ← hrest'], found', read'⟩

/-! ## Runs over a part of the source -/

/-- A tag that says the same. -/
structure Token.SameTag (t t' : Token) : Prop where
  ne_text : t.kind ≠ .text
  kind : t'.kind = t.kind
  value : t'.value = t.value
  delims : t'.delims = t.delims

/-- **Token lists with the same tags**, and with what is left of the same texts between them. -/
inductive Aligned : List Token → List Token → Prop
  /-- Behind the last tag. -/
  | last {gap cs cs' : List Char} {d d' : Delimiters} {pos pos' : Position}
    (left : Text.LeftOf gap cs) (left' : Text.LeftOf gap cs') :
    Aligned (textToken d pos cs) (textToken d' pos' cs')
  /-- The text in front of a tag, and the tag. -/
  | tag {gap cs cs' : List Char} {d d' : Delimiters} {pos pos' : Position} {t t' : Token}
    {ts ts' : List Token} (left : Text.LeftOf gap cs) (left' : Text.LeftOf gap cs')
    (same : t.SameTag t') (rest : Aligned ts ts') :
    Aligned (textToken d pos cs ++ t :: ts) (textToken d' pos' cs' ++ t' :: ts')

/-- Where a tag stands behind a stretch of text. -/
theorem append_cons_eq_textToken_append {before after ts : List Token} {t u : Token}
    {d : Delimiters} {pos : Position} {cs : List Char} (ht : t.kind ≠ .text)
    (h : before ++ t :: after = textToken d pos cs ++ u :: ts) :
    before = textToken d pos cs ∧ t = u ∧ after = ts ∨
      ∃ inner, before = textToken d pos cs ++ u :: inner ∧ ts = inner ++ t :: after := by
  rcases List.append_eq_append_iff.1 h with ⟨others, hmore, hts⟩ | ⟨others, hmore, hts⟩
  · cases others with
    | nil =>
      rw [List.append_nil] at hmore
      rw [List.nil_append, List.cons.injEq] at hts
      exact .inl ⟨hmore.symm, hts.1, hts.2⟩
    | cons v others =>
      rw [List.cons_append, List.cons.injEq] at hts
      have hmem : t ∈ textToken d pos cs := by
        rw [hmore, hts.1]
        simp
      exact absurd (kind_of_mem_textToken hmem) ht
  · cases others with
    | nil =>
      rw [List.append_nil] at hmore
      rw [List.nil_append, List.cons.injEq] at hts
      exact .inl ⟨hmore, hts.1.symm, hts.2.symm⟩
    | cons v others =>
      rw [List.cons_append, List.cons.injEq] at hts
      exact .inr ⟨others, by rw [hmore, hts.1], hts.2⟩

/-- No token of a run starts before the run. -/
theorem Scanned.offset_le {d : Delimiters} {pos : Position} {text : List Char}
    {tokens : List Token} (h : Scanned d pos text tokens) (hd : d.IsPlain) :
    ∀ t ∈ tokens, pos.offset ≤ t.start := by
  have hsource : (List.replicate pos.offset ' ' ++ text).drop pos.offset = text :=
    List.drop_left' (by simp)
  exact fun t ht => ((h.ordered hsource hd).1 t ht).1

/-- **A tag is found and read behind what is skipped of a line**, in the text that it ends in. -/
theorem exists_readTag_of_skipped {d : Delimiters} {front text tail before body : List Char}
    {tag : Tag} (hd : d.IsPlain) (hfront : Skipped (front ++ text) front)
    (found : Text.cut? d.opening.toList (front ++ text ++ tail) = some (before, body))
    (read : readTag d body = .ok tag)
    (hlen : before.length + d.opening.toList.length + tag.consumed.length ≤
      (front ++ text).length) :
    ∃ before' body' tag', before = front ++ before' ∧ tag = tag'.followedBy tail ∧
      Text.cut? d.opening.toList text = some (before', body') ∧ readTag d body' = .ok tag' ∧
      Skipped (front ++ before') front := by
  obtain ⟨body', tag', rfl, rfl, found', read'⟩ := exists_readTag_of_append hd found read hlen
  rw [Text.cut?_blank_append hd.opening hfront.isBlank, Option.map_eq_some_iff] at found'
  obtain ⟨⟨before', rest⟩, found', heq⟩ := found'
  obtain ⟨rfl, rfl⟩ := Prod.mk.inj heq
  refine ⟨before', _, tag', rfl, rfl, found', read', ?_⟩
  have hsplit : front ++ text = front ++ before' ++ (d.opening.toList ++ rest) := by
    rw [Text.eq_append_of_cut?_eq_some found']
    simp only [List.append_assoc]
  rw [hsplit] at hfront
  exact hfront.of_append (by simp [hd.opening.1])

/-- **The run over the text in front of a tag.** Let a tag be found in a run, and let a text that
ends where the tag begins be scanned on its own, from the same place or from one that differs only
in what is skipped of a line. Then the run over this text yields the same tags.

**Proof sketch.** Induction on the run. Between two tags there is the same text in both runs, but
different parts of it may have been skipped at its start, which are blank. So the next opening
delimiter is the same in both, or it is the one of the given tag and is missing in the part. -/
theorem Scanned.slice {d : Delimiters} {pos : Position} {text : List Char} {tokens : List Token}
    (h : Scanned d pos text tokens) (hd : d.IsPlain) {inner after : List Token} {closer : Token}
    (htokens : tokens = inner ++ closer :: after) (hcloser : closer.kind ≠ .text)
    {front front' text' tail : List Char} (hrest : front ++ text = front' ++ text' ++ tail)
    (hfront : Skipped (front ++ text) front) (hfront' : Skipped (front' ++ text') front')
    (hstart : closer.start + front.length = pos.offset + (front' ++ text').length)
    (pos' : Position) : ∃ inner', Scanned d pos' text' inner' ∧ Aligned inner inner' := by
  induction h generalizing inner front front' text' pos' with
  | @last d pos text _ =>
    have hmem : closer ∈ textToken d pos text := by simp [htokens]
    exact absurd (kind_of_mem_textToken hmem) hcloser
  | @tag d changed pos text before body tag tokens found read change rest ih =>
    have hword := hd.opening
    have htext := Text.eq_append_of_cut?_eq_some found
    rw [tagTokens_eq, List.append_assoc, List.singleton_append] at htokens
    -- The text up to the tag is the same for both runs.
    have hfound : Text.cut? d.opening.toList (front' ++ text' ++ tail) =
        some (front ++ before, body) := by
      rw [← hrest, Text.cut?_blank_append hword hfront.isBlank, found]
      rfl
    have hsplit : front ++ text = front ++ before ++ (d.opening.toList ++ body) := by
      rw [htext]
      simp only [List.append_assoc]
    have hgap : Skipped (front ++ before) front := by
      rw [hsplit] at hfront
      exact hfront.of_append (by simp [hword.1])
    rcases append_cons_eq_textToken_append hcloser htokens.symm with
      ⟨rfl, rfl, rfl⟩ | ⟨inner, rfl, rfl⟩
    · -- The text ends in front of the tag.
      rw [start_tagToken] at hstart
      have hlength : (front ++ before).length = (front' ++ text').length := by
        rw [List.length_append]
        omega
      have hsame : front ++ before = front' ++ text' :=
        List.append_inj_left (hsplit.symm.trans hrest) hlength
      have hnone : Text.cut? d.opening.toList text' = none := by
        have hcut := Text.cut?_eq_none_of_append hfound hword.1 <| by
          have := List.length_pos_iff.2 hword.1
          omega
        rw [Text.cut?_blank_append hword hfront'.isBlank, Option.map_eq_none_iff] at hcut
        exact hcut
      refine ⟨textToken d pos' text', .last hnone, .last (leftOf_keptBefore hgap pos tag) ?_⟩
      rw [hsame]
      exact leftOf_of_skipped hfront'
    · -- The tag is read from the text.
      have hbound := rest.offset_le (Delimiters.isPlain_of_delimsAfter change hd) closer (by simp)
      rw [offset_positionAfter, stop_tagToken] at hbound
      obtain ⟨before', body', tag', hbefore, rfl, found', read', hgap'⟩ :=
        exists_readTag_of_skipped hd hfront' hfound read <| by
          rw [List.length_append]
          omega
      have hlength := congrArg List.length (eq_append_of_readTag found' read')
      have hskipped := congrArg List.length hbefore
      simp only [List.length_append] at hlength hskipped hstart
      have hafter := rest_eq_append_restAfter pos before (tag'.followedBy tail)
      have hafter' := rest_eq_append_restAfter pos' before' tag'
      have hbehind : droppedAfter (marginsOf pos before (tag'.followedBy tail)) ++
          restAfter (tag'.followedBy tail) (marginsOf pos before (tag'.followedBy tail)) =
            droppedAfter (marginsOf pos' before' tag') ++
              restAfter tag' (marginsOf pos' before' tag') ++ tail := by
        rw [← hafter, ← hafter']
        rfl
      obtain ⟨inner', hrun, haligned⟩ := ih (Delimiters.isPlain_of_delimsAfter change hd) rfl
        hbehind
        (by rw [← hafter]; exact skipped_droppedAfter pos before _)
        (by rw [← hafter']; exact skipped_droppedAfter pos' before' _)
        (by
          rw [offset_positionAfter, stop_tagToken, ← hafter']
          dsimp only [Tag.followedBy]
          omega)
        (positionAfter d pos' before' tag' (marginsOf pos' before' tag'))
      refine ⟨_, .tag found' read' change hrun, ?_⟩
      rw [tagTokens_eq, List.append_assoc, List.singleton_append]
      refine .tag (leftOf_keptBefore hgap pos _) ?_ ⟨?_, rfl, rfl, rfl⟩ haligned
      · rw [hbefore]
        exact leftOf_keptBefore hgap' pos' _
      · exact kind_ne_text_of_readTag read

/-! ## The text between two tags -/

/-- The run behind a tag: the delimiters of the tag stay in effect unless it changes them, and
something may be skipped first. -/
theorem Scanned.exists_behind {source : List Char} {d : Delimiters} {pos : Position}
    {text : List Char} {tokens : List Token} (h : Scanned d pos text tokens)
    (hsource : source.drop pos.offset = text) (hd : d.IsPlain) {before after : List Token}
    {t : Token} (htokens : tokens = before ++ t :: after) (ht : t.kind ≠ .text) :
    ∃ changed pos' front text', Scanned changed pos' text' after ∧ changed.IsPlain ∧
      (t.kind ≠ .delimiterChange → changed = t.delims) ∧
      source.drop t.stop = front ++ text' ∧ Skipped (front ++ text') front ∧
      pos'.offset = t.stop + front.length := by
  induction h generalizing before with
  | @last d pos text _ =>
    have hmem : t ∈ textToken d pos text := by simp [htokens]
    exact absurd (kind_of_mem_textToken hmem) ht
  | @tag d changed pos text start body tag tokens found read change rest ih =>
    have hchanged := Delimiters.isPlain_of_delimsAfter change hd
    rw [tagTokens_eq, List.append_assoc, List.singleton_append] at htokens
    rcases append_cons_eq_textToken_append ht htokens.symm with ⟨-, rfl, rfl⟩ | ⟨inner, -, rfl⟩
    · have hafter := rest_eq_append_restAfter pos start tag
      refine ⟨changed, _, droppedAfter (marginsOf pos start tag), _, rest, hchanged,
        fun hkind => ?_, ?_, ?_, offset_positionAfter _ _ _ _ _⟩
      · rcases Delimiters.delimsAfter_eq_ok_iff.1 change with ⟨hk, -⟩ | ⟨-, rfl⟩
        · exact absurd hk hkind
        · rfl
      · rw [drop_stop_tagToken hsource found read, ← hafter]
      · rw [← hafter]
        exact skipped_droppedAfter pos start tag
    · exact ih (drop_offset_positionAfter hsource found read) hchanged rfl

/-- **The text between two tags on its own** has the tags that stand between them, under the
delimiters that are in effect behind the first one. -/
theorem Scanned.between {source : List Char} {d : Delimiters} {tokens : List Token}
    (h : Scanned d .start source tokens) (hd : d.IsPlain) {before inner after : List Token}
    {opener closer : Token} (htokens : tokens = before ++ opener :: (inner ++ closer :: after))
    (hopener : opener.kind ≠ .text) (hchange : opener.kind ≠ .delimiterChange)
    (hcloser : closer.kind ≠ .text) :
    ∃ inner', Scanned opener.delims .start (Text.slice source opener.stop closer.start) inner' ∧
      Aligned inner inner' := by
  have hordered := h.ordered rfl hd
  rw [htokens] at hordered
  have hle : opener.stop ≤ closer.start := by
    have hpairs := (List.pairwise_append.1 hordered.2).2.1
    exact (List.pairwise_cons.1 hpairs).1 closer (by simp)
  have hbound : closer.start ≤ source.length := by
    obtain ⟨-, hfits⟩ := hordered.1 closer (by simp)
    exact Nat.le_of_lt (Nat.lt_of_lt_of_le hfits.start_lt_stop hfits.stop_le)
  obtain ⟨changed, pos', front, text', hrun, hplain, hchanged, hdrop, hfront, hoffset⟩ :=
    h.exists_behind rfl hd htokens hopener
  rw [← hchanged hchange]
  have hsplit : front ++ text' =
      [] ++ Text.slice source opener.stop closer.start ++ source.drop closer.start := by
    rw [← hdrop, List.nil_append]
    exact Text.drop_eq_slice_append source hle
  refine hrun.slice hplain rfl hcloser hsplit hfront (skipped_nil _) ?_ .start
  · rw [hoffset, List.nil_append, Text.length_slice hbound]
    omega

end Mustache
