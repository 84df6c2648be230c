import Mustache.Proofs.Render.Moved
import Mustache.Proofs.Token.Slice

/-!
# Scanning a text that is flush with the tags around it

The text between two tags may be scanned on its own, and then no line seems to begin or to end
where it does not, provided that there is no blank at either end of the text. So every tag in it has
the margins that it has in the source, and the tokens are the same but for the place where the text
stands.

## Main definitions

* `Mustache.Token.StartsInk`, `Mustache.Token.EndsInk` — texts without a blank at an end.

## Main results

* `Mustache.exists_readTag_of_restAfter` — one step of the run over a part of the source.
* `Mustache.Scanned.flush` — the run over the text in front of a tag.
* `Mustache.Scanned.between_flush` — the run over the text between two tags.
-/

namespace Mustache

/-! ## Characters that are not blank -/

/-- A character that is not blank may not stand beside a tag that has its line to itself. -/
theorem Text.isMargin_of_not_isBlank {c : Char} (h : isBlank c = false) : isMargin c = false := by
  by_contra hmargin
  rw [Bool.not_eq_false] at hmargin
  simp only [isMargin, Bool.or_eq_true, beq_iff_eq] at hmargin
  rcases hmargin with rfl | rfl <;> simp [isBlank] at h

/-- A text that starts with a character that is not blank. -/
def Token.StartsInk (t : Token) : Prop :=
  t.kind = .text ∧ ∃ c, t.value.toList.head? = some c ∧ Text.isBlank c = false

/-- A text that ends with a character that is not blank. -/
def Token.EndsInk (t : Token) : Prop :=
  t.kind = .text ∧ ∃ c, t.value.toList.getLast? = some c ∧ Text.isBlank c = false

/-! ## Margins -/

/-- Whether a line starts at the position does not matter if there is something on it. -/
theorem marginsOf_congr {pos pos' : Position} {before : List Char} (tag : Tag)
    (h : (pos.column = 0 ↔ pos'.column = 0) ∨
      ∃ c, before.head? = some c ∧ Text.isBlank c = false) :
    marginsOf pos before tag = marginsOf pos' before tag := by
  unfold marginsOf
  rcases h with h | ⟨c, hc, hink⟩
  · have hfresh : (pos.column == 0) = (pos'.column == 0) := by
      rw [Bool.eq_iff_iff, beq_iff_eq, beq_iff_eq]
      exact h
    rw [hfresh]
  · by_cases hnewline : '\n' ∈ before
    · unfold standalone?
      simp [hnewline]
    · -- The whole stretch is on the line of the tag.
      have hnone (fresh : Bool) : standalone? tag.kind fresh before tag.rest = none := by
        rw [Option.eq_none_iff_forall_ne_some]
        intro m hm
        have hmargin := isMargin_of_standalone? hm (c := c)
          ((Text.lastLine_eq_self hnewline).symm ▸ List.mem_of_mem_head? hc)
        rw [Text.isMargin_of_not_isBlank hink] at hmargin
        simp at hmargin
      rw [hnone, hnone]

/-- In front of a tag all is kept if what is kept does not end with a blank. -/
theorem keptBefore_eq_self {pos : Position} {before : List Char} {tag : Tag} {c : Char}
    (hlast : (keptBefore before (marginsOf pos before tag)).getLast? = some c)
    (hink : Text.isBlank c = false) : keptBefore before (marginsOf pos before tag) = before := by
  have happ := keptBefore_append_droppedBefore pos before tag
  rcases droppedBefore_cases pos before tag with hnone | ⟨-, hkept | hkept⟩
  · rw [hnone, List.append_nil] at happ
    exact happ
  · rw [hkept] at hlast
    simp at hlast
  · rw [hkept, Option.some.injEq] at hlast
    subst hlast
    simp [Text.isBlank] at hink

/-! ## The text in front of a tag -/

/-- The last character of a text with more in front of it. -/
theorem getLast?_append_of_eq_some {α : Type} {xs : List α} {a : α} (h : xs.getLast? = some a)
    (front : List α) : (front ++ xs).getLast? = some a := by
  rw [List.getLast?_append, h]
  rfl

/-- A text token at another place. -/
theorem moved_textToken {d : Delimiters} {pos pos' : Position} {cs : List Char}
    {length i j u : Nat} (hpos : pos.offset = u + i) (hpos' : pos'.offset = u + j)
    (hu : u ≤ length) :
    List.Forall₂ (Token.Moved length i j) (textToken d pos cs) (textToken d pos' cs) := by
  unfold textToken
  split
  · exact .nil
  · refine .cons ⟨rfl, rfl, rfl, rfl, ⟨u, hu, hpos, hpos'⟩, u + cs.length, ?_, ?_⟩ .nil
    · dsimp only
      omega
    · dsimp only
      omega

/-- A tag at another place. -/
theorem moved_tagToken {d : Delimiters} {pos pos' : Position} {before : List Char} {tag : Tag}
    {margins : Option Margins} {length i j u : Nat} (hpos : pos.offset = u + i)
    (hpos' : pos'.offset = u + j) (hu : u + before.length ≤ length) :
    (tagToken d pos before tag margins).Moved length i j (tagToken d pos' before tag margins) := by
  refine ⟨rfl, rfl, rfl, rfl, ⟨u + before.length, hu, ?_, ?_⟩,
    u + before.length + d.opening.toList.length + tag.consumed.length, ?_, ?_⟩
  · rw [start_tagToken]
    omega
  · rw [start_tagToken]
    omega
  · rw [stop_tagToken]
    omega
  · rw [stop_tagToken]
    omega

/-- Behind a tag the last token is the same, if it is a text. -/
theorem getLast?_of_text {ts inner : List Token} {t last : Token}
    (hlast : (ts ++ t :: inner).getLast? = some last) (hkind : t.kind ≠ .text)
    (htext : last.kind = .text) : inner.getLast? = some last := by
  rw [List.getLast?_append, List.getLast?_cons] at hlast
  cases hinner : inner.getLast? with
  | some u => simpa [hinner] using hlast
  | none =>
    rw [hinner] at hlast
    obtain rfl : t = last := by simpa using hlast
    exact absurd htext hkind

/-- **A tag is read from its own characters and its margins**, if what is left behind it goes on to
a character that is not blank: then the rest of its line is the same when the source ends there. -/
theorem exists_readTag_of_restAfter {d : Delimiters} {pos : Position}
    {text before body left tail : List Char} {tag : Tag} {c : Char} (hd : d.IsPlain)
    (found : Text.cut? d.opening.toList text = some (before, body))
    (read : readTag d body = .ok tag)
    (hrest : restAfter tag (marginsOf pos before tag) = left ++ tail)
    (hlast : left.getLast? = some c) (hblank : Text.isBlank c = false) :
    ∃ text' body' tag', text = text' ++ tail ∧ tag = tag'.followedBy tail ∧
      Text.cut? d.opening.toList text' = some (before, body') ∧ readTag d body' = .ok tag' ∧
      marginsOf pos before tag = (marginsOf pos before tag').map (·.followedBy tail) ∧
      restAfter tag' (marginsOf pos before tag') = left ∧ text'.getLast? = some c := by
  have hafter := rest_eq_append_restAfter pos before tag
  have htext := eq_append_of_readTag found read
  rw [hafter, hrest, ← List.append_assoc _ left, ← List.append_assoc] at htext
  generalize hdropped : droppedAfter (marginsOf pos before tag) = dropped at hafter htext
  rw [htext] at found
  obtain ⟨body', tag', rfl, rfl, found', read'⟩ :=
    exists_readTag_of_append hd found read (by simp only [List.length_append]; omega)
  have htag : tag'.rest = dropped ++ left := by
    rw [hrest, ← List.append_assoc] at hafter
    exact List.append_cancel_right hafter
  have hmargins := marginsOf_append pos before (htag ▸ getLast?_append_of_eq_some hlast dropped)
    (Text.isMargin_of_not_isBlank hblank) (by rintro rfl; simp [Text.isBlank] at hblank) tail
  refine ⟨_, body', tag', htext, rfl, found', read', hmargins, ?_, ?_⟩
  · have hafter' := rest_eq_append_restAfter pos before tag'
    rw [hmargins, droppedAfter_followedBy] at hdropped
    rw [hdropped, htag] at hafter'
    exact (List.append_cancel_left hafter').symm
  · rw [← List.append_assoc]
    exact getLast?_append_of_eq_some hlast _

/-- A tag has the same margins at two places, if a line starts at both, or at none, or if there is a
token in front of the tag that does not start with a blank. -/
theorem marginsOf_eq_of_startsInk {d : Delimiters} {pos pos' : Position} {before : List Char}
    {tag : Tag} {inner : List Token} (hkind : tag.kind ≠ .text)
    (h : (pos.column = 0 ↔ pos'.column = 0) ∨ ∃ first : Token,
      (tagTokens d pos before tag (marginsOf pos before tag) ++ inner).head? = some first ∧
      first.StartsInk) :
    marginsOf pos before tag = marginsOf pos' before tag := by
  refine marginsOf_congr tag (h.imp_right ?_)
  rintro ⟨first, hfirst, htext, c, hc, hblank⟩
  rw [tagTokens_eq, List.append_assoc] at hfirst
  have happ := keptBefore_append_droppedBefore pos before tag
  cases hkept : keptBefore before (marginsOf pos before tag) with
  | nil =>
    rw [hkept] at hfirst
    obtain rfl := Option.some.inj hfirst
    exact absurd htext hkind
  | cons k ks =>
    rw [hkept] at hfirst happ
    obtain rfl := Option.some.inj hfirst
    rw [String.toList_ofList] at hc
    exact ⟨c, by rw [← happ]; exact hc, hblank⟩

/-- Behind a tag a line starts, or not, wherever the tag stands. -/
theorem column_positionAfter_eq_zero_iff {d : Delimiters} (hd : d.IsPlain) (p q : Position)
    (before before' : List Char) (tag : Tag) (margins : Option Margins) :
    (positionAfter d p before tag margins).column = 0 ↔
      (positionAfter d q before' tag margins).column = 0 := by
  unfold positionAfter
  rw [Position.column_advance_eq_zero_iff (p.advance before),
    Position.column_advance_eq_zero_iff (q.advance before')]
  simp [hd.opening.1]

/-- **The run over the text in front of a tag**, if the text does not end with a blank: it yields
the tokens in front of the tag. Where it begins, a line must start in both runs or in none, unless
the text does not begin with a blank.

**Proof sketch.** Induction on the run. In front of the tag all is kept, so that the text reaches up
to it. Behind any other tag the text goes on to the same character that is not blank, so that the
rest of the line of this tag is the same in both runs. -/
theorem Scanned.flush {d : Delimiters} {pos : Position} {text : List Char} {tokens : List Token}
    (h : Scanned d pos text tokens) (hd : d.IsPlain) {inner after : List Token}
    {closer last : Token} (htokens : tokens = inner ++ closer :: after)
    (hcloser : closer.kind ≠ .text) (hlast : inner.getLast? = some last) (hink : last.EndsInk)
    {length i j : Nat} (hlength : closer.start ≤ length + i) :
    ∃ text' tail, text = text' ++ tail ∧ closer.start = pos.offset + text'.length ∧
      (∃ c, text'.getLast? = some c ∧ Text.isBlank c = false) ∧
      ∀ pos' u, pos.offset = u + i → pos'.offset = u + j →
        ((pos.column = 0 ↔ pos'.column = 0) ∨
          ∃ first, inner.head? = some first ∧ first.StartsInk) →
        ∃ inner', Scanned d pos' text' inner' ∧
          List.Forall₂ (Token.Moved length i j) inner inner' := by
  induction h generalizing inner with
  | @last d pos text _ =>
    have hmem : closer ∈ textToken d pos text := by simp [htokens]
    exact absurd (kind_of_mem_textToken hmem) hcloser
  | @tag d changed pos text before body tag tokens found read change rest ih =>
    have hword := hd.opening
    rw [tagTokens_eq, List.append_assoc, List.singleton_append] at htokens
    rcases append_cons_eq_textToken_append hcloser htokens.symm with
      ⟨rfl, rfl, rfl⟩ | ⟨inner, rfl, rfl⟩
    · -- The text ends in front of the tag.
      obtain ⟨-, rfl⟩ := mem_textToken_iff.1 (List.mem_of_mem_getLast? hlast)
      obtain ⟨-, c, hc, hblank⟩ := hink
      rw [String.toList_ofList] at hc
      have hkept := keptBefore_eq_self hc hblank
      rw [hkept] at hc ⊢
      have htext := Text.eq_append_of_cut?_eq_some found
      rw [List.append_assoc] at htext
      refine ⟨before, _, htext, start_tagToken _ _ _ _ _, ⟨c, hc, hblank⟩,
        fun pos' u hpos hpos' _ => ⟨textToken d pos' before, .last ?_, ?_⟩⟩
      · have hopening := List.length_pos_iff.2 hword.1
        rw [htext] at found
        exact Text.cut?_eq_none_of_append found hword.1 (by omega)
      · rw [start_tagToken] at hlength
        exact moved_textToken hpos hpos' (by omega)
    · -- The text goes on behind the tag, which is read from it.
      have hkind := kind_ne_text_of_readTag read
      obtain ⟨left, tail, hleft, hstart, ⟨c, hc, hblank⟩, hrun⟩ :=
        ih (Delimiters.isPlain_of_delimsAfter change hd) rfl (getLast?_of_text hlast hkind hink.1)
      obtain ⟨text', body', tag', rfl, rfl, found', read', hmargins, hrest, hends⟩ :=
        exists_readTag_of_restAfter hd found read hleft hc hblank
      rw [← List.singleton_append, ← List.append_assoc, ← tagTokens_eq, hmargins,
        tagTokens_followedBy]
      rw [hmargins, positionAfter_followedBy] at hstart hrun
      -- The next position is as far away in both runs.
      obtain ⟨n, htotal, hplace⟩ : ∃ n, text'.length = before.length + n + left.length ∧
          ∀ p : Position, (positionAfter d p before tag' (marginsOf pos before tag')).offset =
            p.offset + (before.length + n) := by
        have htext := congrArg List.length (eq_append_of_readTag found' read')
        have hparts := congrArg List.length (rest_eq_append_restAfter pos before tag')
        rw [hrest] at hparts
        simp only [List.length_append] at htext hparts
        refine ⟨d.opening.toList.length + tag'.consumed.length +
          (droppedAfter (marginsOf pos before tag')).length, by omega, fun p => ?_⟩
        rw [offset_positionAfter, stop_tagToken]
        omega
      rw [hplace] at hstart
      refine ⟨text', tail, rfl, by omega, ⟨c, hends, hblank⟩,
        fun pos' u hpos hpos' hcolumn => ?_⟩
      have hsame : marginsOf pos before tag' = marginsOf pos' before tag' :=
        marginsOf_eq_of_startsInk hkind hcolumn
      obtain ⟨inner', hscan, hmoved⟩ := hrun
        (positionAfter d pos' before tag' (marginsOf pos before tag')) (u + (before.length + n))
        (by rw [hplace]; omega) (by rw [hplace]; omega)
        (.inl (column_positionAfter_eq_zero_iff hd pos pos' before before tag' _))
      rw [← hrest, hsame] at hscan
      refine ⟨_, .tag found' read' change hscan, ?_⟩
      rw [← hsame, tagTokens_eq, tagTokens_eq, List.append_assoc, List.append_assoc]
      refine List.rel_append (moved_textToken hpos hpos' (by omega)) (.cons ?_ hmoved)
      exact moved_tagToken hpos hpos' (by omega)

/-! ## The text between two tags -/

/-- **The text between two tags on its own** has the tokens that stand between them, if there is no
blank at either end of it and a text token at both.

**Proof sketch.** Nothing is dropped behind the first tag, as what is dropped is blank. So the run
over the text begins where the text does. -/
theorem Scanned.between_flush {source : List Char} {d : Delimiters} {tokens : List Token}
    (h : Scanned d .start source tokens) (hd : d.IsPlain) {before inner after : List Token}
    {opener closer first last : Token}
    (htokens : tokens = before ++ opener :: (inner ++ closer :: after))
    (hopener : opener.kind ≠ .text) (hchange : opener.kind ≠ .delimiterChange)
    (hcloser : closer.kind ≠ .text) (hfirst : inner.head? = some first)
    (hstarts : first.StartsInk) (hlast : inner.getLast? = some last) (hends : last.EndsInk)
    (hink : ∃ c, (Text.slice source opener.stop closer.start).head? = some c ∧
      Text.isBlank c = false) :
    ∃ inner', Scanned opener.delims .start (Text.slice source opener.stop closer.start) inner' ∧
      List.Forall₂ (Token.Moved (closer.start - opener.stop) opener.stop 0) inner inner' := by
  have hle : opener.stop ≤ closer.start := by
    obtain ⟨-, hpairs⟩ := h.ordered rfl hd
    rw [htokens] at hpairs
    exact (List.pairwise_cons.1 (List.pairwise_append.1 hpairs).2.1).1 closer (by simp)
  obtain ⟨changed, pos, front, text, hrun, hplain, hchanged, hdrop, hfront, hoffset⟩ :=
    h.exists_behind rfl hd htokens hopener
  obtain rfl := hchanged hchange
  -- Nothing is dropped behind the first tag.
  obtain rfl : front = [] := by
    obtain ⟨c, hc, hblank⟩ := hink
    cases front with
    | nil => rfl
    | cons b front =>
      have hsplit := Text.drop_eq_slice_append source hle
      rw [hdrop] at hsplit
      obtain ⟨cs, hcs⟩ := List.head?_eq_some_iff.1 hc
      rw [hcs, List.cons_append, List.cons_append, List.cons.injEq] at hsplit
      have hb := hfront.isBlank b List.mem_cons_self
      rw [hsplit.1, hblank] at hb
      simp at hb
  rw [List.nil_append] at hdrop
  rw [List.length_nil, Nat.add_zero] at hoffset
  have hlength : closer.start ≤ closer.start - opener.stop + opener.stop := by omega
  obtain ⟨text', tail, hsplit, hstart, -, hslice⟩ :=
    hrun.flush hplain rfl hcloser hlast hends (j := 0) hlength
  have htext : Text.slice source opener.stop closer.start = text' := by
    refine Text.slice_eq_of_drop (hdrop.trans hsplit) ?_
    omega
  rw [htext]
  exact hslice .start 0 (by omega) rfl (.inr ⟨first, hfirst, hstarts⟩)

end Mustache
