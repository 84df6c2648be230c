import Mustache.Proofs.Text.Crlf
import Mustache.Proofs.Token.Flush
import Mustache.Proofs.Tree.Like

/-!
# Scanning a source with other line ends

A source without carriage returns, and the same source with one in front of every newline, have the
same tags: a tag is found, read and given its margins in the same way. Only the texts and the
contents of the tags have the other line ends.

## Main definitions

* `Mustache.Tag.crlf`, `Mustache.Margins.crlf` — a tag and its margins in the source with the other
  line ends.
* `Mustache.Token.Converted` — a token of the source with the other line ends.

## Main results

* `Mustache.readTag_crlf`, `Mustache.standalone?_crlf` — one step.
* `Mustache.Scanned.crlf`, `Mustache.Scanned.exists_of_crlf` — the run over the source with the
  other line ends, and back.
-/

namespace Mustache

/-! ## Reading a tag -/

/-- The tag in the source with the other line ends. -/
def Tag.crlf (tag : Tag) : Tag where
  kind := tag.kind
  value := Text.crlf tag.value
  consumed := Text.crlf tag.consumed
  rest := Text.crlf tag.rest

/-- No sigil is a line end. -/
theorem sigilOf_crlf (body : List Char) : sigilOf (Text.crlf body) = sigilOf body := by
  cases body with
  | nil => rfl
  | cons c body =>
    by_cases hc : c = '\n'
    · subst hc
      rfl
    · rw [Text.crlf_cons hc]
      rfl

/-- A sigil has no newline. -/
theorem SigilOf.newline_not_mem {text sigil : List Char} {kind : TokenKind}
    (h : SigilOf text sigil kind) : '\n' ∉ sigil := by
  cases h with
  | char h =>
    intro hmem
    obtain rfl := List.mem_singleton.1 hmem
    simp [sigils] at h
  | absent _ => simp

/-- A closer is a word. -/
theorem isWord_closerOf {d : Delimiters} (hd : d.IsPlain) (sigil : List Char) :
    Text.IsWord (closerOf d sigil) := by
  refine ⟨closerOf_ne_nil hd sigil, fun c hc => ?_⟩
  unfold closerOf at hc
  split at hc
  · rcases List.mem_cons.1 hc with rfl | hc
    · decide
    · exact hd.closing.2 c hc
  · rcases List.mem_cons.1 hc with rfl | hc
    · decide
    · exact hd.closing.2 c hc
  · exact hd.closing.2 c hc

/-- A word has no newline. -/
theorem Text.IsWord.crlf_eq_self {w : List Char} (h : IsWord w) : Text.crlf w = w := by
  refine Text.crlf_eq_self fun hmem => ?_
  have hblank := h.2 _ hmem
  revert hblank
  decide

/-- **A tag is read alike**, whichever line ends there are in it and behind it. -/
theorem readTag_crlf {d : Delimiters} (hd : d.IsPlain) (body : List Char) :
    readTag d (Text.crlf body) = (readTag d body).map Tag.crlf := by
  have hword := isWord_closerOf hd (sigilOf body).1
  have hsigil : SigilOf body (sigilOf body).1 (sigilOf body).2 := sigilOf_eq_iff.1 rfl
  have hself : Text.crlf (sigilOf body).1 = (sigilOf body).1 :=
    Text.crlf_eq_self hsigil.newline_not_mem
  have hdrop : (Text.crlf body).drop (sigilOf body).1.length =
      Text.crlf (body.drop (sigilOf body).1.length) := by
    have hbody := congrArg Text.crlf hsigil.eq_append_drop
    rw [Text.crlf_append, hself] at hbody
    rw [hbody, List.drop_left]
  unfold readTag
  dsimp only
  rw [sigilOf_crlf, hdrop, Text.cut?_crlf hword]
  cases Text.cut? (closerOf d (sigilOf body).1) (body.drop (sigilOf body).1.length) with
  | none => rfl
  | some parts =>
    obtain ⟨inner, rest⟩ := parts
    have hempty : (Text.trim (Text.crlf inner)).isEmpty = (Text.trim inner).isEmpty := by
      rw [Bool.eq_iff_iff, List.isEmpty_iff, List.isEmpty_iff, Text.trim_crlf,
        Text.crlf_eq_nil_iff]
    simp only [Option.map_some, hempty]
    split
    · rfl
    · simp only [Except.map, Tag.crlf, Text.trim_crlf, Text.crlf_append, hself,
        hword.crlf_eq_self]

/-- The delimiters after a tag are the same. -/
theorem delimsAfter_crlf {d changed : Delimiters} (tag : Tag) :
    delimsAfter d tag.crlf = .ok changed ↔ delimsAfter d tag = .ok changed := by
  have hwords : Delimiters.ofWords? (Text.crlf tag.value) = Delimiters.ofWords? tag.value := by
    unfold Delimiters.ofWords?
    rw [Text.words_crlf]
  rw [Delimiters.delimsAfter_eq_ok_iff, Delimiters.delimsAfter_eq_ok_iff]
  show tag.kind = _ ∧ Delimiters.ofWords? (Text.crlf tag.value) = _ ∨ tag.kind ≠ _ ∧ _ ↔ _
  rw [hwords]

/-! ## Margins -/

/-- The margins in the source with the other line ends. -/
def Margins.crlf (m : Margins) : Margins where
  before := m.before
  after := Text.crlf m.after
  rest := Text.crlf m.rest

theorem lineRest?_crlf {rest : List Char} (h : '\r' ∉ rest) :
    lineRest? (Text.crlf rest) =
      (lineRest? rest).map fun parts => (Text.crlf parts.1, Text.crlf parts.2) := by
  have hmem : ∀ c ∈ rest.dropWhile Text.isMargin, c ∈ rest := fun c hc =>
    (List.dropWhile_suffix Text.isMargin).subset hc
  have hblanks : Text.crlf (rest.takeWhile Text.isMargin) = rest.takeWhile Text.isMargin :=
    Text.crlf_eq_self fun hmem => by
      have := List.mem_takeWhile_imp hmem
      simp [Text.isMargin_newline] at this
  unfold lineRest?
  rw [Text.takeWhile_isMargin_crlf, Text.dropWhile_isMargin_crlf]
  cases hdrop : rest.dropWhile Text.isMargin with
  | nil =>
    rw [Option.map_some, hblanks]
    rfl
  | cons c after =>
    rw [hdrop] at hmem
    have hreturn : c ≠ '\r' := by
      rintro rfl
      exact h (hmem _ List.mem_cons_self)
    by_cases hc : c = '\n'
    · subst hc
      rw [Text.crlf_newline]
      simp only [Option.map_some, Text.crlf_append, hblanks]
      rfl
    · rw [Text.crlf_cons hc]
      simp [hc, hreturn]

/-- **A tag has its line to itself, or not**, whichever line ends there are. -/
theorem standalone?_crlf (kind : TokenKind) (fresh : Bool) (before : List Char)
    {rest : List Char} (h : '\r' ∉ rest) :
    standalone? kind fresh (Text.crlf before) (Text.crlf rest) =
      (standalone? kind fresh before rest).map Margins.crlf := by
  have hcontains : (Text.crlf before).contains '\n' = before.contains '\n' := by
    rw [Bool.eq_iff_iff, List.contains_iff_mem, List.contains_iff_mem, Text.newline_mem_crlf_iff]
  rw [standalone?_eq_ite, standalone?_eq_ite, hcontains, Text.lastLine_crlf, lineRest?_crlf h]
  split
  · rw [Option.map_map, Option.map_map]
    rfl
  · rfl

section

variable {pos pos' : Position} {before : List Char} {tag : Tag}

theorem marginsOf_crlf (hcolumn : pos.column = 0 ↔ pos'.column = 0) (before : List Char)
    (h : '\r' ∉ tag.rest) :
    marginsOf pos' (Text.crlf before) tag.crlf = (marginsOf pos before tag).map Margins.crlf := by
  have hfresh : (pos'.column == 0) = (pos.column == 0) := by
    rw [Bool.eq_iff_iff, beq_iff_eq, beq_iff_eq]
    exact hcolumn.symm
  unfold marginsOf
  rw [hfresh]
  exact standalone?_crlf _ _ _ h

theorem droppedBefore_crlf (margins : Option Margins) :
    droppedBefore (margins.map Margins.crlf) = droppedBefore margins := by
  cases margins <;> rfl

/-- There is no newline among the blanks in front of a tag. -/
theorem newline_not_mem_droppedBefore (pos : Position) (before : List Char) (tag : Tag) :
    '\n' ∉ droppedBefore (marginsOf pos before tag) := by
  intro hmem
  have hmargin := isMargin_of_mem_droppedBefore hmem
  rw [Text.isMargin_newline] at hmargin
  simp at hmargin

theorem restAfter_crlf (margins : Option Margins) :
    restAfter tag.crlf (margins.map Margins.crlf) = Text.crlf (restAfter tag margins) := by
  cases margins <;> rfl

theorem keptBefore_crlf (hcolumn : pos.column = 0 ↔ pos'.column = 0) (h : '\r' ∉ tag.rest) :
    keptBefore (Text.crlf before) ((marginsOf pos before tag).map Margins.crlf) =
      Text.crlf (keptBefore before (marginsOf pos before tag)) := by
  have happ := keptBefore_append_droppedBefore pos' (Text.crlf before) tag.crlf
  rw [marginsOf_crlf hcolumn before h, droppedBefore_crlf] at happ
  have hself := congrArg Text.crlf (keptBefore_append_droppedBefore pos before tag)
  rw [Text.crlf_append, Text.crlf_eq_self (newline_not_mem_droppedBefore pos before tag)] at hself
  exact List.append_cancel_right (happ.trans hself.symm)

/-- Behind a tag a line starts, or not, whichever line ends there are. -/
theorem column_positionAfter_crlf {d : Delimiters} (hd : d.IsPlain) (pos pos' : Position)
    (before : List Char) (tag : Tag) (margins : Option Margins) :
    (positionAfter d pos before tag margins).column = 0 ↔
      (positionAfter d pos' (Text.crlf before) tag.crlf (margins.map Margins.crlf)).column = 0 := by
  have hafter : ((margins.map Margins.crlf).map Margins.after).getD [] =
      Text.crlf ((margins.map Margins.after).getD []) := by
    cases margins <;> rfl
  have htext : d.opening.toList ++ tag.crlf.consumed ++
      ((margins.map Margins.crlf).map Margins.after).getD [] = Text.crlf
        (d.opening.toList ++ tag.consumed ++ (margins.map Margins.after).getD []) := by
    rw [hafter, Text.crlf_append, Text.crlf_append, hd.opening.crlf_eq_self]
    rfl
  unfold positionAfter
  rw [htext, Position.column_advance_eq_zero_iff (pos.advance before),
    Position.column_advance_eq_zero_iff (pos'.advance (Text.crlf before)), Text.getLast?_crlf,
    Text.crlf_eq_nil_iff]
  simp [hd.opening.1]

end

/-! ## Runs -/

/-- **A token of the source with the other line ends.** -/
structure Token.Converted (t t' : Token) : Prop where
  kind : t'.kind = t.kind
  value : t'.value = crlf t.value
  indent : t'.indent = t.indent
  margin : '\n' ∉ t.indent.toList

theorem converted_textToken (d : Delimiters) (pos pos' : Position) (cs : List Char) :
    List.Forall₂ Token.Converted (textToken d pos cs) (textToken d pos' (Text.crlf cs)) := by
  unfold textToken
  by_cases hcs : cs = []
  · subst hcs
    exact .nil
  · rw [if_neg (by simpa using hcs), if_neg (by simpa using hcs)]
    exact .cons ⟨rfl, (crlf_ofList cs).symm, rfl, by simp⟩ .nil

theorem converted_tagToken (d : Delimiters) (pos pos' : Position) (before : List Char)
    (tag : Tag) : (tagToken d pos before tag (marginsOf pos before tag)).Converted
      (tagToken d pos' (Text.crlf before) tag.crlf
        ((marginsOf pos before tag).map Margins.crlf)) where
  kind := rfl
  value := (crlf_ofList tag.value).symm
  indent := by
    unfold tagToken
    rw [droppedBefore_crlf]
    rfl
  margin := by
    unfold tagToken
    dsimp only
    split
    · rw [String.toList_ofList]
      exact newline_not_mem_droppedBefore pos before tag
    · simp

/-- What is left behind a tag has no carriage return if there is none in the text. -/
theorem return_not_mem_of_readTag {d : Delimiters} {text before body : List Char} {tag : Tag}
    (h : '\r' ∉ text) (found : Text.cut? d.opening.toList text = some (before, body))
    (read : readTag d body = .ok tag) (pos : Position) :
    '\r' ∉ tag.rest ∧ '\r' ∉ restAfter tag (marginsOf pos before tag) := by
  rw [eq_append_of_readTag found read] at h
  have hrest : '\r' ∉ tag.rest := fun hmem => h (List.mem_append_right _ hmem)
  refine ⟨hrest, fun hmem => hrest ?_⟩
  rw [rest_eq_append_restAfter pos before tag]
  exact List.mem_append_right _ hmem

/-- **The run over the source with the other line ends**: its tokens are those of the source, with
the other line ends.

**Proof sketch.** Induction on the run; every step commutes with the change of the line ends. -/
theorem Scanned.crlf {d : Delimiters} {pos pos' : Position} {text : List Char}
    {tokens : List Token} (h : Scanned d pos text tokens) (hd : d.IsPlain) (hreturn : '\r' ∉ text)
    (hcolumn : pos.column = 0 ↔ pos'.column = 0) :
    ∃ tokens', Scanned d pos' (Text.crlf text) tokens' ∧
      List.Forall₂ Token.Converted tokens tokens' := by
  induction h generalizing pos' with
  | @last d pos text found =>
    refine ⟨_, .last ?_, converted_textToken d pos pos' text⟩
    rw [Text.cut?_crlf hd.opening, found, Option.map_none]
  | @tag d changed pos text before body tag tokens found read change rest ih =>
    have hplain := Delimiters.isPlain_of_delimsAfter change hd
    obtain ⟨hrest, hleft⟩ := return_not_mem_of_readTag hreturn found read pos
    have hmargins := marginsOf_crlf hcolumn before hrest
    obtain ⟨tokens', hrun, hconverted⟩ :=
      ih hplain hleft (column_positionAfter_crlf hd pos pos' before tag _)
    rw [← restAfter_crlf, ← hmargins] at hrun
    have hfound : Text.cut? d.opening.toList (Text.crlf text) =
        some (Text.crlf before, Text.crlf body) := by
      rw [Text.cut?_crlf hd.opening, found, Option.map_some]
    have hread : readTag d (Text.crlf body) = .ok tag.crlf := by
      rw [readTag_crlf hd, read]
      rfl
    refine ⟨_, .tag hfound hread ((delimsAfter_crlf tag).2 change) hrun, ?_⟩
    rw [tagTokens_eq, tagTokens_eq, hmargins, keptBefore_crlf hcolumn hrest]
    exact List.rel_append (List.rel_append (converted_textToken d pos pos' _)
      (.cons (converted_tagToken d pos pos' before tag) .nil)) hconverted

/-- **The run over a source, given the one with the other line ends.** -/
theorem Scanned.exists_of_crlf {d : Delimiters} {pos pos' : Position} {text : List Char}
    {tokens' : List Token} (h : Scanned d pos' (Text.crlf text) tokens') (hd : d.IsPlain)
    (hreturn : '\r' ∉ text) (hcolumn : pos.column = 0 ↔ pos'.column = 0) :
    ∃ tokens, Scanned d pos text tokens := by
  generalize htext : Text.crlf text = text' at h
  induction h generalizing pos text with
  | @last d pos' text' found =>
    subst htext
    rw [Text.cut?_crlf hd.opening, Option.map_eq_none_iff] at found
    exact ⟨_, .last found⟩
  | @tag d changed pos' text' before' body' tag' tokens' found read change rest ih =>
    subst htext
    rw [Text.cut?_crlf hd.opening, Option.map_eq_some_iff] at found
    obtain ⟨⟨before, body⟩, found, heq⟩ := found
    obtain ⟨rfl, rfl⟩ := Prod.mk.inj heq
    rw [readTag_crlf hd] at read
    cases hread : readTag d body with
    | error cause =>
      rw [hread] at read
      simp [Except.map] at read
    | ok tag =>
      rw [hread] at read
      obtain rfl : tag.crlf = tag' := Except.ok.inj read
      rw [delimsAfter_crlf] at change
      obtain ⟨hrest, hleft⟩ := return_not_mem_of_readTag hreturn found hread pos
      have hmargins := marginsOf_crlf hcolumn before hrest
      rw [hmargins] at ih
      obtain ⟨tokens, hrun⟩ := ih (Delimiters.isPlain_of_delimsAfter change hd) hleft
        (column_positionAfter_crlf hd pos pos' before tag _) (restAfter_crlf _).symm
      exact ⟨_, .tag found hread change hrun⟩

end Mustache
