import Mathlib.Data.List.Forall2
import Mustache.Proofs.Delimiters
import Mustache.Proofs.Token.Run

/-!
# Decomposing a source into tags

A source falls, from left to right, into stretches of text and tags. A tag begins at the first
opening delimiter behind the previous tag, and ends with the first closer behind its sigil. The
conditions refer to offsets of the whole source and not to the scanner.

## Main definitions

* `Mustache.TagSpan` — a tag by its place, delimiters, kind, sigil and inner text.
* `Mustache.TagSpan.In` — the tag stands in a source.
* `Mustache.Decomposes` — tags that make up a source, together with the stretches between them.
* `Mustache.TagSpan.IsOf` — the token of a tag.

## Main results

* `Mustache.Decomposes.unique` — a source has at most one decomposition.
* `Mustache.Scanned.decomposes`, `Mustache.Decomposes.scanned` — the runs of the scanner and the
  decompositions of a source come from one another.
* `Mustache.tokenize_decomposes` — the scanner returns tokens exactly for the sources that have a
  decomposition, and they are its tokens.

## Implementation notes

A run goes on behind the margins of a tag, a decomposition right behind the tag. The two meet
because margins are blank and a plain opening delimiter has no blanks.
-/

namespace Mustache

/-! ## Tags of a source -/

/-- A tag by its place, delimiters, kind, sigil and inner text. -/
structure TagSpan where
  /-- Where the opening delimiter begins. -/
  start : Nat
  delims : Delimiters
  kind : TokenKind
  sigil : List Char
  /-- What stands between the sigil and the closer. -/
  inner : List Char

namespace TagSpan

/-- What closes the tag. -/
def closer (t : TagSpan) : List Char := closerOf t.delims t.sigil

/-- The whole tag. -/
def text (t : TagSpan) : List Char := t.delims.opening.toList ++ t.sigil ++ t.inner ++ t.closer

/-- Where the tag ends. -/
def stop (t : TagSpan) : Nat := t.start + t.text.length

/-- Where the inner text begins. -/
def innerStart (t : TagSpan) : Nat := t.start + t.delims.opening.toList.length + t.sigil.length

/-- The inner text without the blanks around it. -/
def value (t : TagSpan) : List Char := Text.trim t.inner

/-- The tag stands in the source. -/
structure In (source : List Char) (t : TagSpan) : Prop where
  /-- The slice of the source is the tag. -/
  slice : Text.slice source t.start t.stop = t.text
  /-- The sigil is the character behind the opening delimiter, if it is one of the sigils. -/
  sigil : SigilOf (source.drop (t.start + t.delims.opening.toList.length)) t.sigil t.kind
  /-- The closer does not occur earlier behind the sigil. -/
  first : ∀ i, t.innerStart ≤ i → i < t.innerStart + t.inner.length →
    ¬ Text.OccursAt t.closer source i
  /-- Only a comment may be empty. -/
  nonempty : t.kind ≠ .comment → t.value ≠ []

/-- The delimiters in effect behind the tag. A delimiter change holds exactly two words without
an equals sign. -/
def Leaves (t : TagSpan) (d : Delimiters) : Prop :=
  t.kind = .delimiterChange ∧ (∃ first second : List Char, Text.words t.value = [first, second] ∧
    '=' ∉ first ∧ '=' ∉ second ∧ d = ⟨String.ofList first, String.ofList second⟩) ∨
  t.kind ≠ .delimiterChange ∧ d = t.delims

/-- The token that stands for the tag. -/
structure IsOf (t : TagSpan) (k : Token) : Prop where
  kind : k.kind = t.kind
  value : k.value = String.ofList t.value
  start : k.start = t.start
  stop : k.stop = t.stop
  delims : k.delims = t.delims

end TagSpan

/-- **A decomposition of a source** from the offset `p` on, where the delimiters `d` are in effect:
no opening delimiter begins between two tags or after the last one. -/
inductive Decomposes (source : List Char) : Nat → Delimiters → List TagSpan → Prop
  | last {p : Nat} {d : Delimiters} (gap : ∀ i, p ≤ i → ¬ Text.OccursAt d.opening.toList source i) :
    Decomposes source p d []
  | tag {p : Nat} {d changed : Delimiters} {t : TagSpan} {ts : List TagSpan} (delims : t.delims = d)
    (le : p ≤ t.start)
    (gap : ∀ i, p ≤ i → i < t.start → ¬ Text.OccursAt d.opening.toList source i)
    (here : t.In source) (leaves : t.Leaves changed) (rest : Decomposes source t.stop changed ts) :
    Decomposes source p d (t :: ts)

namespace TagSpan

variable {source : List Char} {t u : TagSpan}

/-- The source from the start of a tag on begins with the tag. -/
theorem In.drop_start (h : t.In source) : source.drop t.start = t.text ++ source.drop t.stop := by
  have hsplit := Text.drop_eq_slice_append source (Nat.le_add_right t.start t.text.length)
  rwa [show t.start + t.text.length = t.stop from rfl, h.slice] at hsplit

/-- The opening delimiter stands where the tag begins. -/
theorem In.occursAt_start (h : t.In source) :
    Text.OccursAt t.delims.opening.toList source t.start := by
  unfold Text.OccursAt
  rw [h.drop_start]
  simp only [text, List.append_assoc]
  exact List.prefix_append _ _

/-- Behind the opening delimiter come sigil, inner text and closer. -/
theorem In.drop_opening (h : t.In source) :
    source.drop (t.start + t.delims.opening.toList.length) =
      t.sigil ++ t.inner ++ t.closer ++ source.drop t.stop := by
  rw [← List.drop_drop, h.drop_start]
  simp only [text, List.append_assoc, List.drop_left]

/-- Behind the sigil come inner text and closer. -/
theorem In.drop_innerStart (h : t.In source) :
    source.drop t.innerStart = t.inner ++ t.closer ++ source.drop t.stop := by
  rw [innerStart, ← List.drop_drop, h.drop_opening]
  simp only [List.append_assoc, List.drop_left]

/-- The delimiters and the start of a tag determine it. -/
theorem In.eq (ht : t.In source) (hu : u.In source) (hstart : t.start = u.start)
    (hdelims : t.delims = u.delims) : t = u := by
  have hsigil : (t.sigil, t.kind) = (u.sigil, u.kind) := by
    rw [← sigilOf_eq_iff.2 ht.sigil, ← sigilOf_eq_iff.2 hu.sigil, hstart, hdelims]
  obtain ⟨hs, hk⟩ := Prod.mk.inj hsigil
  have hcloser : t.closer = u.closer := by rw [closer, closer, hdelims, hs]
  have hinner : t.innerStart = u.innerStart := by rw [innerStart, innerStart, hstart, hdelims, hs]
  have hcut : ∀ {v : TagSpan}, v.In source →
      Text.cut? v.closer (source.drop v.innerStart) = some (v.inner, source.drop v.stop) := by
    intro v hv
    refine Text.cut?_eq_some_iff.2 ⟨hv.drop_innerStart, fun i hi => ?_⟩
    rw [Text.occursAt_drop]
    exact hv.first _ (by omega) (by omega)
  have heq : t.inner = u.inner := by
    have h1 := hcut ht
    rw [hcloser, hinner, hcut hu] at h1
    exact (Prod.mk.inj (Option.some.inj h1)).1.symm
  cases t
  cases u
  simp_all

/-- A tag leaves one pair of delimiters behind. -/
theorem Leaves.eq {d d' : Delimiters} (h : t.Leaves d) (h' : t.Leaves d') : d = d' := by
  rcases h with ⟨hk, a, b, hw, -, -, rfl⟩ | ⟨hk, rfl⟩
  · rcases h' with ⟨-, a', b', hw', -, -, rfl⟩ | ⟨hk', -⟩
    · rw [hw] at hw'
      obtain ⟨rfl, rfl⟩ : a = a' ∧ b = b' := by simpa using hw'
      rfl
    · exact absurd hk hk'
  · rcases h' with ⟨hk', -⟩ | ⟨-, rfl⟩
    · exact absurd hk' hk
    · rfl

end TagSpan

/-- **A source has at most one decomposition.**

**Proof sketch.** Induction on the first decomposition. The next tag begins at the first
occurrence of the opening delimiter, and its sigil, inner text and closer are determined by
where it begins; so both decompositions go on from the same offset under the same delimiters. -/
theorem Decomposes.unique {source : List Char} {p : Nat} {d : Delimiters} {ts us : List TagSpan}
    (h : Decomposes source p d ts) (h' : Decomposes source p d us) : ts = us := by
  induction h generalizing us with
  | last gap =>
    cases h' with
    | last _ => rfl
    | tag delims le _ here _ _ => exact absurd (delims ▸ here.occursAt_start) (gap _ le)
  | tag delims le gap here leaves _ ih =>
    cases h' with
    | last gap' => exact absurd (delims ▸ here.occursAt_start) (gap' _ le)
    | @tag _ _ _ u _ delims' le' gap' here' leaves' rest' =>
      have hstart := Nat.le_antisymm
        (Nat.le_of_not_lt fun hlt => gap _ le' hlt (delims' ▸ here'.occursAt_start))
        (Nat.le_of_not_lt fun hlt => gap' _ le hlt (delims ▸ here.occursAt_start))
      obtain rfl := here.eq here' hstart (delims.trans delims'.symm)
      obtain rfl := leaves.eq leaves'
      rw [ih rest']

/-! ## Runs and decompositions -/

/-- What is read as a tag behind an opening delimiter stands in the source as a tag. -/
theorem TagSpan.exists_of_readTag {source before body : List Char} {p : Nat}
    {d changed : Delimiters} {tag : Tag}
    (hsource : source.drop p = before ++ d.opening.toList ++ body)
    (hread : readTag d body = .ok tag) (hchange : delimsAfter d tag = .ok changed) :
    ∃ t : TagSpan, t.In source ∧ t.Leaves changed ∧ t.start = p + before.length ∧ t.delims = d ∧
      t.kind = tag.kind ∧ t.value = tag.value ∧
      t.stop = p + before.length + d.opening.toList.length + tag.consumed.length := by
  obtain ⟨sigil, inner, hsigil, hbody, hfirst, hvalue, hconsumed, hempty⟩ :=
    readTag_eq_ok_iff.1 hread
  have hstart : source.drop (p + before.length) = d.opening.toList ++ body := by
    rw [← List.drop_drop, hsource, List.append_assoc, List.drop_left]
  have hopening : source.drop (p + before.length + d.opening.toList.length) = body := by
    rw [← List.drop_drop, hstart, List.drop_left]
  refine ⟨⟨p + before.length, d, tag.kind, sigil, inner⟩, ⟨?_, ?_, ?_, ?_⟩, ?_, rfl, rfl, rfl,
    hvalue.symm, ?_⟩
  · have htext : source.drop (p + before.length) =
        (d.opening.toList ++ sigil ++ inner ++ closerOf d sigil) ++ tag.rest := by
      rw [hstart, hsigil.eq_append_drop, hbody]
      simp only [List.append_assoc]
    exact Text.slice_eq_of_drop htext rfl
  · rw [hopening]
    exact hsigil
  · intro i hle hlt
    simp only [TagSpan.innerStart, TagSpan.closer] at hle hlt ⊢
    obtain ⟨j, rfl⟩ := Nat.exists_eq_add_of_le hle
    rw [← Text.occursAt_drop, ← List.drop_drop, hopening]
    exact hfirst j (by omega)
  · intro hk hv
    have hv' : tag.value = [] := hvalue.trans hv
    have hmay := hempty hv'
    simp only [mayBeEmpty, Bool.or_eq_true, beq_iff_eq] at hmay
    rcases hmay with hmay | hmay
    · exact hk hmay
    · rcases Delimiters.delimsAfter_eq_ok_iff.1 hchange with ⟨-, hw⟩ | ⟨hk', -⟩
      · rw [hv'] at hw
        simp [Delimiters.ofWords?, Text.words, Text.wordsFrom] at hw
      · exact hk' hmay
  · rcases Delimiters.delimsAfter_eq_ok_iff.1 hchange with ⟨hk, hw⟩ | ⟨hk, rfl⟩
    · refine .inl ⟨hk, ?_⟩
      rw [Delimiters.ofWords?_eq_some_iff, hvalue] at hw
      exact hw
    · exact .inr ⟨hk, rfl⟩
  · simp only [TagSpan.stop, TagSpan.text, TagSpan.closer, hconsumed, List.length_append]
    omega

/-- A tag that stands in the source is read behind its opening delimiter. -/
theorem TagSpan.In.exists_readTag {source : List Char} {t : TagSpan} {changed : Delimiters}
    (h : t.In source) (hleaves : t.Leaves changed) :
    ∃ tag : Tag, readTag t.delims (source.drop (t.start + t.delims.opening.toList.length)) =
        .ok tag ∧ delimsAfter t.delims tag = .ok changed ∧ tag.rest = source.drop t.stop ∧
      t.stop = t.start + t.delims.opening.toList.length + tag.consumed.length := by
  refine ⟨⟨t.kind, t.value, t.sigil ++ t.inner ++ t.closer, source.drop t.stop⟩, ?_, ?_, rfl, ?_⟩
  · have hbody : (source.drop (t.start + t.delims.opening.toList.length)).drop t.sigil.length =
        source.drop t.innerStart := by
      rw [List.drop_drop, innerStart]
    refine readTag_eq_ok_iff.2 ⟨t.sigil, t.inner, h.sigil, ?_, ?_, rfl, rfl, ?_⟩
    · rw [hbody, h.drop_innerStart]
      rfl
    · intro i hi
      rw [hbody, Text.occursAt_drop]
      exact h.first _ (by omega) (by omega)
    · intro hv
      by_contra hk
      refine h.nonempty (fun hc => hk ?_) hv
      simp [mayBeEmpty, hc]
  · rw [Delimiters.delimsAfter_eq_ok_iff, Delimiters.ofWords?_eq_some_iff]
    exact hleaves
  · simp only [stop, text, List.length_append]
    omega

/-- Behind a tag nothing that is dropped can hold an opening delimiter. -/
theorem not_occursAt_dropped {source dropped rest : List Char} {p i : Nat} {d : Delimiters}
    (hd : d.IsPlain) (hsource : source.drop p = dropped ++ rest)
    (hblank : ∀ c ∈ dropped, Text.isBlank c = true) (hle : p ≤ i) (hlt : i < p + dropped.length) :
    ¬ Text.OccursAt d.opening.toList source i := by
  intro hocc
  obtain ⟨c, hc, hget⟩ := hocc.mem_of_lt (Nat.le_refl i)
    (Nat.lt_add_of_pos_right (List.length_pos_iff.2 hd.opening.1))
  obtain ⟨j, rfl⟩ := Nat.exists_eq_add_of_le hle
  have hj : j < dropped.length := by omega
  rw [← List.getElem?_drop, hsource, List.getElem?_append_left hj,
    List.getElem?_eq_getElem hj, Option.some.injEq] at hget
  have := hblank c (hget ▸ List.getElem_mem hj)
  simp [hd.opening.2 c hc] at this

/-- A decomposition may start earlier if nothing occurs in between. -/
theorem Decomposes.of_le {source : List Char} {p q : Nat} {d : Delimiters} {ts : List TagSpan}
    (h : Decomposes source q d ts) (hle : p ≤ q)
    (hgap : ∀ i, p ≤ i → i < q → ¬ Text.OccursAt d.opening.toList source i) :
    Decomposes source p d ts := by
  cases h with
  | last gap =>
    refine .last fun i hi => ?_
    rcases Nat.lt_or_ge i q with hlt | hge
    · exact hgap i hi hlt
    · exact gap i hge
  | tag delims le gap here leaves rest =>
    refine .tag delims (Nat.le_trans hle le) (fun i hi hlt => ?_) here leaves rest
    rcases Nat.lt_or_ge i q with hlt' | hge
    · exact hgap i hi hlt'
    · exact gap i hge hlt

/-- The tokens that are tags. -/
def tagsOf (tokens : List Token) : List Token := tokens.filter fun t => t.kind != .text

/-- A stretch of text is not a tag. -/
theorem tagsOf_textToken (d : Delimiters) (pos : Position) (cs : List Char) :
    tagsOf (textToken d pos cs) = [] := by
  refine List.filter_eq_nil_iff.2 fun t ht => ?_
  simp [kind_of_mem_textToken ht]

/-- A step of the scanner yields one tag. -/
theorem tagsOf_step {d : Delimiters} {pos : Position} {before : List Char} {tag : Tag}
    (hk : tag.kind ≠ .text) (margins : Option Margins) (tokens : List Token) :
    tagsOf (tagTokens d pos before tag margins ++ tokens) =
      tagToken d pos before tag margins :: tagsOf tokens := by
  have htext := tagsOf_textToken d pos (keptBefore before margins)
  unfold tagsOf at htext ⊢
  rw [tagTokens_eq, List.filter_append, List.filter_append, htext]
  simp [tagToken, hk]

/-- **A run of the scanner decomposes its source**, and its tags are those of the decomposition.

**Proof sketch.** Induction on the run. The tag that is read stands in the source, and the margins
behind it hold no opening delimiter, so the decomposition of what follows them is one of what
follows the tag. -/
theorem Scanned.decomposes {source : List Char} {d : Delimiters} {pos : Position}
    {text : List Char} {tokens : List Token} (h : Scanned d pos text tokens)
    (hsource : source.drop pos.offset = text) (hd : d.IsPlain) :
    ∃ tags, Decomposes source pos.offset d tags ∧
      List.Forall₂ TagSpan.IsOf tags (tagsOf tokens) := by
  induction h with
  | @last d pos text hfound =>
    refine ⟨[], .last fun i hi => ?_, ?_⟩
    · obtain ⟨j, rfl⟩ := Nat.exists_eq_add_of_le hi
      rw [← Text.occursAt_drop, hsource]
      exact Text.cut?_eq_none_iff.1 hfound j
    · rw [tagsOf_textToken]
      exact .nil
  | @tag d changed pos text before body tag tokens hfound hread hchange _ ih =>
    obtain ⟨heq, hfirst⟩ := Text.cut?_eq_some_iff.1 hfound
    obtain ⟨t, hin, hleaves, hstart, hdelims, hkind, hvalue, hstop⟩ :=
      TagSpan.exists_of_readTag (hsource.trans heq) hread hchange
    have hchanged := Delimiters.isPlain_of_delimsAfter hchange hd
    have hstop' : t.stop = (tagToken d pos before tag (marginsOf pos before tag)).stop := by
      rw [hstop, stop_tagToken]
    have hafter := offset_positionAfter d pos before tag (marginsOf pos before tag)
    rw [← hstop'] at hafter
    have hsplit := hstop' ▸ drop_stop_tagToken hsource hfound hread (marginsOf pos before tag)
    rw [rest_eq_append_restAfter pos before tag] at hsplit
    obtain ⟨ts, hts, hof⟩ := ih (drop_offset_positionAfter hsource hfound hread) hchanged
    refine ⟨t :: ts, .tag hdelims (by omega) (fun i hi hlt => ?_) hin hleaves ?_, ?_⟩
    · obtain ⟨j, rfl⟩ := Nat.exists_eq_add_of_le hi
      rw [← Text.occursAt_drop, hsource]
      exact hfirst j (by omega)
    · refine hts.of_le (by omega) fun i hi hlt => ?_
      exact not_occursAt_dropped hchanged hsplit (fun c hc => isBlank_of_mem_droppedAfter hc) hi
        (by omega)
    · have hk : tag.kind ≠ .text := hkind ▸ hin.sigil.kind_ne_text
      rw [tagsOf_step hk]
      refine .cons ⟨hkind.symm, ?_, ?_, hstop'.symm, hdelims.symm⟩ hof
      · rw [hvalue]
        rfl
      · rw [hstart, start_tagToken]

/-- **A source with a decomposition is scanned**, from any position that leaves no opening
delimiter behind.

**Proof sketch.** Induction on the decomposition. The next tag is what the scanner finds and
reads, and the margins that it takes off hold no opening delimiter. -/
theorem Decomposes.scanned {source : List Char} {p : Nat} {d : Delimiters} {tags : List TagSpan}
    (h : Decomposes source p d tags) (hd : d.IsPlain) {pos : Position} (hle : p ≤ pos.offset)
    (hgap : ∀ i, p ≤ i → i < pos.offset → ¬ Text.OccursAt d.opening.toList source i) :
    ∃ tokens, Scanned d pos (source.drop pos.offset) tokens := by
  induction h generalizing pos with
  | last gap =>
    refine ⟨_, .last (Text.cut?_eq_none_iff.2 fun i => ?_)⟩
    rw [Text.occursAt_drop]
    exact gap _ (by omega)
  | @tag p d changed t ts delims le gap here leaves _ ih =>
    subst delims
    have hstart : pos.offset ≤ t.start := by
      by_contra hlt
      exact hgap _ le (by omega) here.occursAt_start
    obtain ⟨tag, hread, hchange, hrest, hstop⟩ := here.exists_readTag leaves
    obtain ⟨before, hbefore, hlen⟩ : ∃ before : List Char,
        source.drop pos.offset = before ++ source.drop t.start ∧
        pos.offset + before.length = t.start := by
      refine ⟨_, Text.drop_eq_slice_append source hstart, ?_⟩
      have hocc := here.occursAt_start.add_length_le hd.opening.1
      rw [Text.length_slice (by omega)]
      omega
    have hfound : Text.cut? t.delims.opening.toList (source.drop pos.offset) =
        some (before, source.drop (t.start + t.delims.opening.toList.length)) := by
      refine Text.cut?_eq_some_iff.2 ⟨?_, fun i hi => ?_⟩
      · rw [hbefore, List.append_assoc, here.drop_opening, here.drop_start]
        simp only [TagSpan.text, List.append_assoc]
      · rw [Text.occursAt_drop]
        exact gap _ (by omega) (by omega)
    have hchanged := Delimiters.isPlain_of_delimsAfter hchange hd
    have hafter := offset_positionAfter t.delims pos before tag (marginsOf pos before tag)
    rw [stop_tagToken, hlen, ← hstop] at hafter
    have hsplit := hrest.symm.trans (rest_eq_append_restAfter pos before tag)
    obtain ⟨tokens, hscan⟩ := @ih hchanged
      (positionAfter t.delims pos before tag (marginsOf pos before tag)) (by omega) fun i hi hlt =>
        not_occursAt_dropped hchanged hsplit (fun c hc => isBlank_of_mem_droppedAfter hc) hi
          (by omega)
    rw [drop_offset_positionAfter rfl hfound hread] at hscan
    exact ⟨_, .tag hfound hread hchange hscan⟩

/-! ## Order of the tokens -/

/-- A token has its place in the source: it is not empty, and if it is a stretch of text, its value
is the slice that it spans. -/
structure Token.FitsIn (source : List Char) (t : Token) : Prop where
  start_lt_stop : t.start < t.stop
  stop_le : t.stop ≤ source.length
  value : t.kind = .text → t.value = String.ofList (Text.slice source t.start t.stop)

/-- A stretch of text has its place in the source. -/
theorem fitsIn_of_mem_textToken {source cs rest : List Char} {d : Delimiters} {pos : Position}
    {t : Token} (hsource : source.drop pos.offset = cs ++ rest) (ht : t ∈ textToken d pos cs) :
    t.FitsIn source := by
  obtain ⟨hne, rfl⟩ := mem_textToken_iff.1 ht
  have hpos := List.length_pos_iff.2 hne
  have hlen := congrArg List.length hsource
  rw [List.length_drop, List.length_append] at hlen
  refine ⟨by simpa using hpos, by dsimp only; omega, fun _ => ?_⟩
  dsimp only
  rw [Text.slice_eq_of_drop hsource rfl]

/-- A tag has its place in the source. -/
theorem fitsIn_tagToken {source text before body : List Char} {d : Delimiters} {pos : Position}
    {tag : Tag} (hsource : source.drop pos.offset = text)
    (found : Text.cut? d.opening.toList text = some (before, body))
    (read : readTag d body = .ok tag) (hopening : d.opening.toList ≠ [])
    (margins : Option Margins) : (tagToken d pos before tag margins).FitsIn source := by
  have hpos := List.length_pos_iff.2 hopening
  have hlen := length_eq_stop_tagToken_add hsource found read hopening margins
  refine ⟨?_, by omega, fun hk => ?_⟩
  · rw [start_tagToken, stop_tagToken]
    omega
  · exact absurd hk (kind_ne_text_of_readTag read)

/-- The text that is kept in front of a tag has its place between the position and the tag. -/
theorem bounds_of_mem_keptBefore {source text before body : List Char} {d : Delimiters}
    {pos : Position} {tag : Tag} (hsource : source.drop pos.offset = text)
    (found : Text.cut? d.opening.toList text = some (before, body)) {t : Token}
    (ht : t ∈ textToken d pos (keptBefore before (marginsOf pos before tag))) :
    pos.offset ≤ t.start ∧ t.FitsIn source ∧
      t.stop ≤ (tagToken d pos before tag (marginsOf pos before tag)).start := by
  have hkept := keptBefore_append_droppedBefore pos before tag
  have hlen := congrArg List.length hkept
  rw [List.length_append] at hlen
  have hfits : t.FitsIn source := by
    have hsplit := hsource.trans (Text.eq_append_of_cut?_eq_some found)
    rw [← hkept] at hsplit
    simp only [List.append_assoc] at hsplit
    exact fitsIn_of_mem_textToken hsplit ht
  obtain ⟨-, rfl⟩ := mem_textToken_iff.1 ht
  refine ⟨Nat.le_refl _, hfits, ?_⟩
  rw [start_tagToken]
  dsimp only
  omega

/-- Not more than one token stands for a stretch of text. -/
theorem pairwise_textToken (r : Token → Token → Prop) (d : Delimiters) (pos : Position)
    (cs : List Char) : (textToken d pos cs).Pairwise r := by
  unfold textToken
  split <;> simp

/-- **The tokens of a run** have their places in the source one after the other.

**Proof sketch.** Induction on the run. The text in front of a tag ends where the tag begins, and
the rest of the run starts behind the tag. -/
theorem Scanned.ordered_of_ne_nil {source : List Char} {d : Delimiters} {pos : Position}
    {text : List Char} {tokens : List Token} (h : Scanned d pos text tokens)
    (hsource : source.drop pos.offset = text) (hd : d.opening.toList ≠ []) :
    (∀ t ∈ tokens, pos.offset ≤ t.start ∧ t.FitsIn source) ∧
      tokens.Pairwise fun t u => t.stop ≤ u.start := by
  induction h with
  | @last d pos text hfound =>
    refine ⟨fun t ht => ⟨?_, ?_⟩, ?_⟩
    · obtain ⟨-, rfl⟩ := mem_textToken_iff.1 ht
      exact Nat.le_refl _
    · exact fitsIn_of_mem_textToken (hsource.trans (List.append_nil text).symm) ht
    · exact pairwise_textToken _ d pos text
  | @tag d changed pos text before body tag tokens hfound hread hchange _ ih =>
    obtain ⟨hmem, hpair⟩ := ih (drop_offset_positionAfter hsource hfound hread)
      (Delimiters.opening_ne_nil_of_delimsAfter hchange hd)
    have hstart := start_tagToken d pos before tag (marginsOf pos before tag)
    have hafter := offset_positionAfter d pos before tag (marginsOf pos before tag)
    have htag := fitsIn_tagToken hsource hfound hread hd (marginsOf pos before tag)
    have hlt := htag.start_lt_stop
    rw [tagTokens_eq]
    simp only [List.mem_append, List.mem_singleton, List.pairwise_append, List.pairwise_cons,
      List.not_mem_nil, false_imp_iff, implies_true, List.Pairwise.nil, and_true, true_and]
    refine ⟨?_, ⟨pairwise_textToken _ d pos _, ?_⟩, hpair, ?_⟩
    · rintro t ((ht | rfl) | ht)
      · obtain ⟨hle, hfits, -⟩ := bounds_of_mem_keptBefore hsource hfound ht
        exact ⟨hle, hfits⟩
      · exact ⟨by omega, htag⟩
      · obtain ⟨hle, hfits⟩ := hmem t ht
        exact ⟨by omega, hfits⟩
    · rintro t ht u rfl
      exact (bounds_of_mem_keptBefore hsource hfound ht).2.2
    · rintro t (ht | rfl) u hu
      · have hkept := (bounds_of_mem_keptBefore hsource hfound ht).2.2
        have hnext := (hmem u hu).1
        omega
      · have hnext := (hmem u hu).1
        omega

/-- The tokens of a run under plain delimiters have their places one after the other. -/
theorem Scanned.ordered {source : List Char} {d : Delimiters} {pos : Position}
    {text : List Char} {tokens : List Token} (h : Scanned d pos text tokens)
    (hsource : source.drop pos.offset = text) (hd : d.IsPlain) :
    (∀ t ∈ tokens, pos.offset ≤ t.start ∧ t.FitsIn source) ∧
      tokens.Pairwise fun t u => t.stop ≤ u.start :=
  h.ordered_of_ne_nil hsource hd.opening.1

/-! ## The scanner -/

/-- A template is tokenized by a run from its start. -/
theorem tokenize_eq_ok_iff {source : String} {name : Value} {d : Delimiters}
    {tokens : List Token} :
    tokenize source name d = .ok tokens ↔ Scanned d .start source.toList tokens := by
  rw [← scan_eq_ok_iff]
  unfold tokenize
  cases scan d .start source.toList <;> simp

/-- **The scanner decomposes its source.** Under plain delimiters a source is tokenized exactly if
it has a decomposition into stretches and tags. There is only one; its tags are the tags among the
tokens, and the tokens have their places in the source one after the other. -/
theorem tokenize_decomposes (source : String) (name : Value) {d : Delimiters} (hd : d.IsPlain) :
    (∀ tags tags', Decomposes source.toList 0 d tags → Decomposes source.toList 0 d tags' →
      tags = tags') ∧
    ((∃ tokens, tokenize source name d = .ok tokens) ↔
      ∃ tags, Decomposes source.toList 0 d tags) ∧
    ∀ tokens, tokenize source name d = .ok tokens →
      (∃ tags, Decomposes source.toList 0 d tags ∧
        List.Forall₂ TagSpan.IsOf tags (tagsOf tokens)) ∧
      (tokens.Pairwise fun t u => t.stop ≤ u.start) ∧
      ∀ t ∈ tokens, t.FitsIn source.toList := by
  refine ⟨fun _ _ h h' => h.unique h', ⟨?_, ?_⟩, ?_⟩
  · rintro ⟨tokens, h⟩
    obtain ⟨tags, htags, -⟩ := (tokenize_eq_ok_iff.1 h).decomposes rfl hd
    exact ⟨tags, htags⟩
  · rintro ⟨tags, htags⟩
    obtain ⟨tokens, h⟩ := @Decomposes.scanned _ _ _ _ htags hd .start (Nat.le_refl 0)
      (fun i _ hi => absurd hi (Nat.not_lt_zero i))
    exact ⟨tokens, tokenize_eq_ok_iff.2 h⟩
  · intro tokens h
    have hrun := tokenize_eq_ok_iff.1 h
    obtain ⟨hmem, hpair⟩ := hrun.ordered rfl hd
    exact ⟨hrun.decomposes rfl hd, hpair, fun t ht => (hmem t ht).2⟩

/-- What ends well has a result. -/
theorem exists_eq_ok_of_isSome_toOption {ε α : Type} {x : Except ε α}
    (h : x.toOption.isSome = true) : ∃ a, x = .ok a := by
  cases x with
  | ok a => exact ⟨a, rfl⟩
  | error e => simp [Except.toOption] at h

/-- A tag in three braces, a change of delimiters and a tag under the new ones. -/
theorem tokenize_decomposes_change : ∃ source tokens, Delimiters.usual.IsPlain ∧
    source = "a \x7b\x7b\x7bb\x7d\x7d\x7d\x7b\x7b=<% %>=\x7d\x7d <%#c%>" ∧
    tokenize source .null .usual = .ok tokens ∧
    tokens = [⟨.text, "a ", ⟨1, 0⟩, 0, 2, .usual, ""⟩,
      ⟨.rawInterpolation, "b", ⟨1, 2⟩, 2, 9, .usual, ""⟩,
      ⟨.delimiterChange, "<% %>", ⟨1, 9⟩, 9, 20, .usual, ""⟩,
      ⟨.text, " ", ⟨1, 20⟩, 20, 21, ⟨"<%", "%>"⟩, ""⟩,
      ⟨.sectionStart, "c", ⟨1, 21⟩, 21, 27, ⟨"<%", "%>"⟩, ""⟩] ∧
    (∃ tags, Decomposes source.toList 0 .usual tags ∧ tags.length = 3 ∧
      List.Forall₂ TagSpan.IsOf tags (tagsOf tokens)) ∧
    (tokens.Pairwise fun t u => t.stop ≤ u.start) ∧ ∀ t ∈ tokens, t.FitsIn source.toList := by
  have htokens : tokenize "a \x7b\x7b\x7bb\x7d\x7d\x7d\x7b\x7b=<% %>=\x7d\x7d <%#c%>" .null
      .usual = .ok [⟨.text, "a ", ⟨1, 0⟩, 0, 2, .usual, ""⟩,
        ⟨.rawInterpolation, "b", ⟨1, 2⟩, 2, 9, .usual, ""⟩,
        ⟨.delimiterChange, "<% %>", ⟨1, 9⟩, 9, 20, .usual, ""⟩,
        ⟨.text, " ", ⟨1, 20⟩, 20, 21, ⟨"<%", "%>"⟩, ""⟩,
        ⟨.sectionStart, "c", ⟨1, 21⟩, 21, 27, ⟨"<%", "%>"⟩, ""⟩] :=
    eq_ok_of_toOption_eq_some (by decide +kernel)
  obtain ⟨⟨tags, htags, hof⟩, hpairwise, hfits⟩ :=
    (tokenize_decomposes _ .null Delimiters.isPlain_usual).2.2 _ htokens
  exact ⟨_, _, Delimiters.isPlain_usual, rfl, htokens, rfl, ⟨tags, htags, hof.length_eq, hof⟩,
    hpairwise, hfits⟩

end Mustache
