import Mustache.Proofs.Token.Slice
import Mustache.Proofs.Tree.Reads

/-!
# The nodes of the text between two tags

The text between the tags of a section is read like a source of its own. If its tags are split into
names and filters as they are in the source, it stands for the nodes of the section, but for blanks
at the lines of tags.

## Main definitions

* `Mustache.Node.Matches`, `Mustache.AllMatch` — nodes of the same tags.
* `Mustache.BarsCovered` — no tag with a bar stands in front of the pragma for filters.

## Main results

* `Mustache.Reads.aligned` — token lists with the same tags stand for nodes of the same tags.
-/

namespace Mustache

/-! ## Nodes of the same tags -/

/-- Sections whose tags say the same. -/
structure Section.Matches (head head' : Section) : Prop where
  name : head'.name = head.name
  inverted : head'.inverted = head.inverted
  filters : head'.filters = head.filters
  delims : head'.delims = head.delims

/-- What is left of the same text between two tags, twice. -/
def Text.SameGap (cs cs' : List Char) : Prop := ∃ gap, LeftOf gap cs ∧ LeftOf gap cs'

mutual

/-- **Nodes of tags that say the same**, nested in the same way. Inclusions may differ in what is
put in front of their lines. -/
inductive Node.Matches : Node → Node → Prop
  | interpolation (place place' : Place) (name : String) (escaped : Bool) (filters : List String)
      (delims : Delimiters) :
    Node.Matches (.interpolation place name escaped filters delims)
      (.interpolation place' name escaped filters delims)
  | block {head head' : Section} {body body' : List Node} (heads : head.Matches head')
      (bodies : AllMatch body body') : Node.Matches (.block head body) (.block head' body')
  | inclusion (place place' : Place) (name indent indent' : String) :
    Node.Matches (.inclusion place name indent) (.inclusion place' name indent')
  | comment (place place' : Place) (value : String) :
    Node.Matches (.comment place value) (.comment place' value)
  | delimiterChange (place place' : Place) (delims : Delimiters) :
    Node.Matches (.delimiterChange place delims) (.delimiterChange place' delims)
  | pragma (place place' : Place) (name : String) :
    Node.Matches (.pragma place name) (.pragma place' name)

/-- **Nodes of the same tags in the same order**, with what is left of the same texts between
them. -/
inductive AllMatch : List Node → List Node → Prop
  /-- Behind the last tag. -/
  | last {cs cs' : List Char} (place place' : Place) (gap : Text.SameGap cs cs') :
    AllMatch (textNodes place cs) (textNodes place' cs')
  /-- The text in front of a tag, and the tag. -/
  | tag {cs cs' : List Char} {n n' : Node} {ns ns' : List Node} (place place' : Place)
      (gap : Text.SameGap cs cs') (first : n.Matches n') (others : AllMatch ns ns') :
    AllMatch (textNodes place cs ++ n :: ns) (textNodes place' cs' ++ n' :: ns')

end

/-! ## Token lists with the same tags -/

/-- Token lists with the same tags fall into parts together. -/
theorem Aligned.append_cons {ts us : List Token} {before after : List Token} {t : Token}
    (h : Aligned ts us) (hts : ts = before ++ t :: after) (ht : t.kind ≠ .text) :
    ∃ before' t' after', us = before' ++ t' :: after' ∧ Aligned before before' ∧ t.SameTag t' ∧
      Aligned after after' := by
  induction h generalizing before with
  | @last gap cs cs' d d' pos pos' _ _ =>
    have hmem : t ∈ textToken d pos cs := by simp [hts]
    exact absurd (kind_of_mem_textToken hmem) ht
  | @tag gap cs cs' d d' pos pos' u u' ts us left left' same rest ih =>
    rcases append_cons_eq_textToken_append ht hts.symm with ⟨rfl, rfl, rfl⟩ | ⟨inner, rfl, rfl⟩
    · exact ⟨_, u', us, rfl, .last left left', same, rest⟩
    · obtain ⟨before', t', after', rfl, hbefore, hsame, hafter⟩ := ih rfl
      exact ⟨textToken d' pos' cs' ++ u' :: before', t', after', by simp,
        .tag left left' same hbefore, hsame, hafter⟩

/-- A stretch of text holds no pragma. -/
theorem not_isFiltersPragma_of_mem_textToken {d : Delimiters} {pos : Position} {cs : List Char} :
    ∀ t ∈ textToken d pos cs, ¬ t.IsFiltersPragma := fun t ht hp => by
  have hkind := hp.1
  rw [kind_of_mem_textToken ht] at hkind
  simp at hkind

theorem filteredAfter_textToken (filtered : Bool) (d : Delimiters) (pos : Position)
    (cs : List Char) : filteredAfter filtered (textToken d pos cs) = filtered := by
  have hnone : ((textToken d pos cs).any fun t => decide t.IsFiltersPragma) = false :=
    List.any_eq_false.2 fun t ht => by simpa using not_isFiltersPragma_of_mem_textToken t ht
  rw [filteredAfter, hnone, Bool.or_false]

theorem Token.SameTag.isFiltersPragma_iff {t t' : Token} (h : t.SameTag t') :
    t'.IsFiltersPragma ↔ t.IsFiltersPragma :=
  isFiltersPragma_congr h.kind fun _ => h.value

/-- The same pragmas stand in token lists with the same tags. -/
theorem Aligned.filteredAfter_eq {ts us : List Token} (h : Aligned ts us) (filtered : Bool) :
    filteredAfter filtered us = filteredAfter filtered ts := by
  induction h generalizing filtered with
  | last _ _ => rw [filteredAfter_textToken, filteredAfter_textToken]
  | @tag gap cs cs' d d' pos pos' t t' ts us _ _ same _ ih =>
    have hone : filteredAfter filtered [t'] = filteredAfter filtered [t] := by
      simp [filteredAfter, same.isFiltersPragma_iff]
    rw [filteredAfter_append, filteredAfter_append, filteredAfter_textToken,
      filteredAfter_textToken, ← List.singleton_append, ← List.singleton_append (l := ts),
      filteredAfter_append, filteredAfter_append, hone, ih]

/-- A stretch of text stands for its node. -/
theorem reads_textToken_append_iff {filtered : Bool} {d : Delimiters} {pos : Position}
    {cs : List Char} {tokens : List Token} {ns : List Node} :
    Reads filtered (textToken d pos cs ++ tokens) ns ↔
      ∃ ms, Reads filtered tokens ms ∧ ns = textNodes pos.place cs ++ ms := by
  have hfiltered := filteredAfter_textToken filtered d pos cs
  unfold textToken textNodes at *
  cases hcs : cs.isEmpty with
  | true => simp
  | false =>
    simp only [hcs, Bool.false_eq_true, if_false, List.singleton_append] at hfiltered ⊢
    constructor
    · intro h
      cases h with
      | leaf node after =>
        rw [Reading.leaf?, Option.some.injEq] at node
        rw [hfiltered] at after
        exact ⟨_, after, by rw [← node]⟩
      | block opens => rcases opens with hk | hk <;> simp at hk
    · rintro ⟨ms, hms, rfl⟩
      refine .leaf rfl ?_
      rwa [hfiltered]

/-! ## Filters -/

/-- **Tags with bars stand behind the pragma for filters**, if filters are not available from the
start; a closing tag counts as standing where its opening tag stands. -/
structure BarsCovered (filtered : Bool) (tokens : List Token) : Prop where
  split : ∀ before t after, tokens = before ++ t :: after →
    (Reading.mk t filtered).Interpolates ∨ (Reading.mk t filtered).Opens → '|' ∈ t.value.toList →
      filteredAfter filtered before = true
  closing : ∀ before opener inner closer after,
    tokens = before ++ opener :: (inner ++ closer :: after) →
    (Reading.mk opener filtered).Opens → (Reading.mk closer filtered).Closes →
    (∃ active ns, Reads active inner ns) → '|' ∈ closer.value.toList →
      filteredAfter filtered before = true

namespace BarsCovered

variable {filtered : Bool}

theorem left {ts us : List Token} (h : BarsCovered filtered (ts ++ us)) : BarsCovered filtered ts := by
  refine ⟨fun before t after heq hk hbar => ?_, fun before opener inner closer after heq ho hc hin
    hbar => ?_⟩
  · exact h.split before t (after ++ us) (by simp [heq]) hk hbar
  · exact h.closing before opener inner closer (after ++ us) (by simp [heq]) ho hc hin hbar

theorem right (ts : List Token) {us : List Token} (h : BarsCovered filtered (ts ++ us)) :
    BarsCovered (filteredAfter filtered ts) us := by
  refine ⟨fun before t after heq hk hbar => ?_, fun before opener inner closer after heq ho hc hin
    hbar => ?_⟩
  · rw [← filteredAfter_append]
    exact h.split (ts ++ before) t after (by simp [heq]) hk hbar
  · rw [← filteredAfter_append]
    exact h.closing (ts ++ before) opener inner closer after (by simp [heq]) ho hc hin hbar

end BarsCovered

/-- A tag without a bar is its own name, whether filters are available or not. -/
theorem splitFilters_of_not_mem {content : String} (h : '|' ∉ content.toList) (active : Bool) :
    splitFilters active content = some (content, []) := by
  unfold splitFilters
  rw [if_pos]
  simp [h]

section

variable {filtered active : Bool}

/-- A tag is split in the same way if filters are available wherever it has a bar. -/
theorem splitFilters_eq_of_bar {content : String} (hle : filtered = true → active = true)
    (h : filtered = active ∨ ('|' ∈ content.toList → filtered = true)) :
    splitFilters filtered content = splitFilters active content := by
  by_cases hbar : '|' ∈ content.toList
  · rcases h with rfl | h
    · rfl
    · rw [h hbar, hle (h hbar)]
  · rw [splitFilters_of_not_mem hbar, splitFilters_of_not_mem hbar]

theorem filteredAfter_le (hle : filtered = true → active = true) (tokens : List Token) :
    filteredAfter filtered tokens = true → filteredAfter active tokens = true := by
  simp only [filteredAfter, Bool.or_eq_true]
  exact Or.imp_left hle

/-- A tag that says the same stands for the same node, if it is split in the same way. -/
theorem Token.SameTag.exists_leaf? {t t' : Token} {n : Node} (h : t.SameTag t')
    (hn : (Reading.mk t active).leaf? = some n)
    (hsplit : (Reading.mk t filtered).Interpolates →
      splitFilters filtered t.value = splitFilters active t.value) :
    ∃ n', (Reading.mk t' filtered).leaf? = some n' ∧ n.Matches n' := by
  simp only [Reading.leaf?_eq_some_iff] at hn ⊢
  cases hn with
  | text hk => exact absurd hk h.ne_text
  | inclusion hk => exact ⟨_, .inclusion (h.kind.trans hk), h.value ▸ .inclusion _ _ _ _ _⟩
  | comment hk => exact ⟨_, .comment (h.kind.trans hk), h.value ▸ .comment _ _ _⟩
  | pragma hk => exact ⟨_, .pragma (h.kind.trans hk), h.value ▸ .pragma _ _ _⟩
  | interpolation hk names =>
    refine ⟨_, .interpolation (hk.imp h.kind.trans h.kind.trans)
      (h.value ▸ (hsplit hk).trans names), ?_⟩
    rw [show t'.kind = t.kind from h.kind, show t'.delims = t.delims from h.delims]
    exact .interpolation _ _ _ _ _ _
  | delimiterChange hk words =>
    exact ⟨_, .delimiterChange (h.kind.trans hk) (h.value ▸ words), .delimiterChange _ _ _⟩

/-- **Token lists with the same tags stand for nodes of the same tags**, if all tags are split in
the same way.

**Proof sketch.** Induction on the number of tokens, along the text in front of the first tag and
the tag. If the tag opens a section, the tokens up to its closing tag and those behind it have the
same tags as well. -/
theorem Reads.aligned {ts us : List Token} {ns : List Node} (h : Reads active ts ns)
    (haligned : Aligned ts us) (hle : filtered = true → active = true)
    (hbars : filtered = active ∨ BarsCovered filtered ts) :
    ∃ ns', Reads filtered us ns' ∧ AllMatch ns ns' := by
  induction hlen : ts.length using Nat.strong_induction_on generalizing ts us ns filtered active with
  | _ length ih =>
  subst hlen
  cases haligned with
  | @last gap cs cs' d d' pos pos' left left' =>
    rw [← List.append_nil (textToken d pos cs), reads_textToken_append_iff] at h
    obtain ⟨ms, hms, rfl⟩ := h
    cases hms
    refine ⟨textNodes pos'.place cs', ?_, ?_⟩
    · rw [← List.append_nil (textToken d' pos' cs')]
      exact reads_textToken_append_iff.2 ⟨[], .nil, (List.append_nil _).symm⟩
    · rw [List.append_nil]
      exact .last _ _ ⟨gap, left, left'⟩
  | @tag gap cs cs' d d' pos pos' t t' ts us left left' same rest =>
    obtain ⟨ms, hms, rfl⟩ := reads_textToken_append_iff.1 h
    -- The text in front of the tag has no pragma.
    have hbars' : filtered = active ∨ BarsCovered filtered (t :: ts) :=
      hbars.imp_right fun hb => by
        have := hb.right _
        rwa [filteredAfter_textToken] at this
    have hnil (f : Bool) : filteredAfter f [] = f := by simp [filteredAfter]
    have hsplit (hk : (Reading.mk t filtered).Interpolates ∨ (Reading.mk t filtered).Opens) :
        splitFilters filtered t.value = splitFilters active t.value :=
      splitFilters_eq_of_bar hle <| hbars'.imp_right fun hb hbar =>
        (hnil filtered).symm.trans (hb.split [] t ts rfl hk hbar)
    obtain ⟨n, others, n', others', rfl, hreads, hfirst, hothers⟩ : ∃ n others n' others',
        ms = n :: others ∧ Reads filtered (t' :: us) (n' :: others') ∧ n.Matches n' ∧
          AllMatch others others' := by
      cases hms with
      | @leaf _ _ n _ others node after =>
        obtain ⟨n', hn', hmatch⟩ := same.exists_leaf? node fun hk => hsplit (.inl hk)
        obtain ⟨others', hreads, hothers⟩ := ih ts.length (by simp; omega) after rest
          (filteredAfter_le hle [t])
          (hbars'.imp (fun heq => by rw [heq]) fun hb => hb.right [t]) rfl
        have hone : filteredAfter filtered [t'] = filteredAfter filtered [t] := by
          simp [filteredAfter, same.isFiltersPragma_iff]
        exact ⟨n, others, n', others', rfl, .leaf hn' (hone ▸ hreads), hmatch, hothers⟩
      | @block _ _ closer name filters names inner after body others opens closes hopener hcloser
          within hbehind =>
        obtain ⟨inner', closer', after', rfl, hinner, hsame, hafter⟩ :=
          rest.append_cons rfl closes.ne_text
        have hone (f : Bool) : filteredAfter f [t] = f := by
          rw [filteredAfter_cons opens.ne_pragma, hnil]
        have hbehind' : filtered = active ∨
            BarsCovered filtered (inner ++ closer :: after) := hbars'.imp_right fun hb => by
          have := hb.right [t]
          rwa [hone] at this
        -- The tokens up to the closing tag, and those behind it.
        obtain ⟨body', hbody, hbodies⟩ := ih inner.length (by simp; omega) within hinner hle
          (hbehind'.imp_right BarsCovered.left) rfl
        obtain ⟨others', hreads, hothers⟩ := ih after.length (by simp; omega) hbehind hafter
          (filteredAfter_le hle inner)
          (hbehind'.imp (fun heq => by rw [heq]) fun hb => by
            have := (hb.right inner).right [closer]
            rwa [filteredAfter_cons closes.ne_pragma, hnil] at this) rfl
        rw [← hinner.filteredAfter_eq] at hreads
        have hopens : (Reading.mk t' filtered).Opens := opens.of_kind same.kind
        have hcloses : (Reading.mk closer' filtered).Closes := hsame.kind.trans closes
        have hsplitCloser : splitFilters filtered closer.value = splitFilters active closer.value :=
          splitFilters_eq_of_bar hle <| hbars'.imp_right fun hb hbar => (hnil filtered).symm.trans
            (hb.closing [] t inner closer after rfl opens closes ⟨active, body, within⟩ hbar)
        have hname : splitFilters filtered t'.value = some (name, filters) := by
          rw [same.value, hsplit (.inr opens), hopener]
        have hname' : splitFilters filtered closer'.value = some (name, names) := by
          rw [hsame.value, hsplitCloser, hcloser]
        refine ⟨_, _, .block (sectionOf t' closer' name filters) body', others', rfl,
          .block hopens hcloses hname hname' hbody hreads,
          .block ⟨rfl, ?_, rfl, same.delims⟩ hbodies, hothers⟩
        show (t'.kind == .invertedStart) = (t.kind == .invertedStart)
        rw [same.kind]
    exact ⟨_, reads_textToken_append_iff.2 ⟨_, hreads, rfl⟩,
      .tag _ _ ⟨gap, left, left'⟩ hfirst hothers⟩

end

end Mustache
