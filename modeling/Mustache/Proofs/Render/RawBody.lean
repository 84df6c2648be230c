import Mustache.Proofs.Render.LambdaText
import Mustache.Proofs.Tree.Slice

/-!
# The raw text of a section as a template

A lambda is handed the text between the tags of its section, and may return it. Then the text is
read as a template of its own, under the delimiters of the section. This module shows that it can
be read, and that its tags are nested like those of the section, if filters are available to the
text where they are to the section: the pragma for filters is not part of the text if it stands in
front of the section.

## Main definitions

* `Mustache.Section.tokensInside` — the tokens between the tags of a section.

## Main results

* `Mustache.loadText_rawBody` — the raw text of a section is loaded, with the tags of the section.
* `Mustache.exists_rawBody_not_loaded` — a section behind a pragma for filters whose text is
  refused.
-/

namespace Mustache

/-! ## The tokens between the tags -/

/-- The tokens between the tags of a section. -/
def Section.tokensInside (head : Section) (tokens : List Token) : List Token :=
  tokens.filter fun t => head.start ≤ t.start && t.stop ≤ head.stop

/-- The tokens of a source in which a section stands for a stretch. -/
theorem tokensInside_sectionOf {source : String} {name : Value} {d : Delimiters}
    {before inner after : List Token} {opener closer : Token} (hd : d.IsPlain)
    (htokens : tokenize source name d = .ok (before ++ opener :: (inner ++ closer :: after)))
    (label : String) (filters : List String) :
    (sectionOf opener closer label filters).tokensInside
      (before ++ opener :: (inner ++ closer :: after)) = inner := by
  obtain ⟨hall, hpairs⟩ := (tokenize_eq_ok_iff.1 htokens).ordered rfl hd
  have hlt (t : Token) (ht : t ∈ before ++ opener :: (inner ++ closer :: after)) :
      t.start < t.stop := (hall t ht).2.start_lt_stop
  obtain ⟨-, hbehind, hfront⟩ := List.pairwise_append.1 hpairs
  obtain ⟨hopener, hbehind⟩ := List.pairwise_cons.1 hbehind
  obtain ⟨-, hcloser, hinner⟩ := List.pairwise_append.1 hbehind
  obtain ⟨hafter, -⟩ := List.pairwise_cons.1 hcloser
  unfold Section.tokensInside sectionOf
  dsimp only
  rw [List.filter_append, List.filter_cons_of_neg, List.filter_append, List.filter_cons_of_neg,
    List.filter_eq_nil_iff.2, List.filter_eq_self.2, List.filter_eq_nil_iff.2, List.nil_append,
    List.append_nil]
  · intro t ht
    have := hafter t ht
    have := hlt closer (by simp)
    have := hlt t (by simp [ht])
    simp only [Bool.and_eq_true, decide_eq_true_eq]
    omega
  · intro t ht
    simpa using ⟨hopener t (by simp [ht]), hinner t ht closer (by simp)⟩
  · intro t ht
    have := hfront t ht opener (by simp)
    have := hlt opener (by simp)
    have := hlt t (by simp [ht])
    simp only [Bool.and_eq_true, decide_eq_true_eq]
    omega
  · have := hlt closer (by simp)
    simp only [Bool.and_eq_true, decide_eq_true_eq]
    omega
  · have := hlt opener (by simp)
    simp only [Bool.and_eq_true, decide_eq_true_eq]
    omega

/-- Token lists with the same tags, the second one some characters and lines further on. -/
theorem Aligned.shift {ts us : List Token} (h : Aligned ts us) (k l : Nat) :
    Aligned ts (us.map (Token.shift k l)) := by
  induction h with
  | last left left' =>
    rw [← textToken_shift]
    exact .last left left'
  | tag left left' same _ ih =>
    rw [List.map_append, List.map_cons, ← textToken_shift]
    exact .tag left left' ⟨same.ne_text, same.kind, same.value, same.delims⟩ ih

/-! ## The tree of the text between the tags -/

/-- Filters are not available at a section if the pragma for them does not stand in front of it. -/
theorem filteredAfter_eq_false {source : List Char} {d : Delimiters} {before rest : List Token}
    {opener : Token} (h : Scanned d .start source (before ++ opener :: rest)) (hd : d.IsPlain)
    (hnone : ∀ t ∈ before ++ opener :: rest, t.IsFiltersPragma → opener.stop ≤ t.start) :
    filteredAfter false before = false := by
  rw [filteredAfter, Bool.false_or, List.any_eq_false]
  intro t ht
  rw [decide_eq_true_eq]
  intro hpragma
  obtain ⟨hall, hpairs⟩ := h.ordered rfl hd
  have hbehind := (List.pairwise_append.1 hpairs).2.2 t ht opener (by simp)
  have hstart := (hall opener (by simp)).2.start_lt_stop
  have hlt := (hall t (by simp [ht])).2.start_lt_stop
  have hle := hnone t (by simp [ht]) hpragma
  omega

section

variable {source : String} {name : Value} {tokens : List Token} {tree : Tree} {head : Section}
  {body : List Node}

/-- **The text between the tags of a section can be parsed**, behind the line that brings the
delimiters of the section into effect. -/
theorem exists_parse_rawBody (htokens : tokenize source name .usual = .ok tokens)
    (htree : parseTokens tokens name (some source) = .ok tree)
    (hblock : HasBlock head body tree.body)
    (hbars : (∀ t ∈ tokens, t.IsFiltersPragma → head.start ≤ t.start) ∨
      BarsCovered false (head.tokensInside tokens)) (name' : Value) :
    head.delims.Written ∧ ∃ tree' ns,
      parse (lambdaSource (head.rawBody source) head.delims.changeTag?) name' .usual = .ok tree' ∧
        tree'.body = head.delims.leadNodes ++ ns ∧ AllMatch body ns := by
  have hrun := tokenize_eq_ok_iff.1 htokens
  have hreads := (exists_buildTree_iff hrun.hasWords).1 ⟨tree, parseTokens_eq_ok_iff.1 htree, rfl⟩
  obtain ⟨before, opener, inner, closer, after, label, filters, others, rfl, hopener, hcloser, -,
    -, rfl, hinner⟩ := hreads.exists_of_hasBlock hblock
  have hwritten : opener.delims.Written :=
    hrun.written Delimiters.written_usual opener (by simp)
  refine ⟨hwritten, ?_⟩
  -- Filters are available to the text where they are to the section.
  have hbars' : false = filteredAfter false before ∨ BarsCovered false inner := by
    rw [tokensInside_sectionOf Delimiters.isPlain_usual htokens] at hbars
    exact hbars.imp_left fun hnone =>
      (filteredAfter_eq_false hrun Delimiters.isPlain_usual hnone).symm
  obtain ⟨inner', hslice, haligned⟩ := hrun.between Delimiters.isPlain_usual rfl
    (by rcases hopener with hk | hk <;> simp [hk]) (by rcases hopener with hk | hk <;> simp [hk])
    (by simp [hcloser])
  have htext : tokenize ((sectionOf opener closer label filters).rawBody source) name
      opener.delims = .ok inner' := by
    rw [tokenize_eq_ok_iff, Section.rawBody, sliceOf, String.toList_ofList]
    exact hslice
  have hle : false = true → filteredAfter false before = true := by simp
  obtain ⟨ns, hns, hmatch⟩ := hinner.aligned
    (haligned.shift opener.delims.lead.length opener.delims.leadLines) hle hbars'
  obtain ⟨tree', htree', hbody⟩ : ∃ tree', parse (lambdaSource
      ((sectionOf opener closer label filters).rawBody source) opener.delims.changeTag?) name'
        .usual = .ok tree' ∧ tree'.body = opener.delims.leadNodes ++ ns :=
    exists_parse_iff.2 ⟨_, (tokenize_lambdaSource_iff hwritten name).2 ⟨inner', htext, rfl⟩,
      (reads_leadTokens_append_iff hwritten).2 ⟨ns, hns, rfl⟩⟩
  exact ⟨tree', ns, htree', hbody, hmatch⟩

/-- **The raw text of a section is a template with the tags of the section.** Let the pragma for
filters not stand in front of the section, or let it stand in the section in front of every tag
there that has a bar. Then the text between the tags of the section is loaded under the delimiters
of the section, and its nodes, behind those of the line that brings the delimiters into effect, are
those of the section: the same tags in the same order and nested in the same way, with the same
names, filters and delimiters. Only blanks at the lines of tags, and what is put in front of the
lines of inclusions, may differ.

**Proof sketch.** A tag is read from its own characters, so that the scanner finds the tags of the
section in its text. They are split into names and filters as in the section, hence fit together as
they do there. -/
theorem loadText_rawBody (htokens : tokenize source name .usual = .ok tokens)
    (htree : parseTokens tokens name (some source) = .ok tree)
    (hblock : HasBlock head body tree.body)
    (hbars : (∀ t ∈ tokens, t.IsFiltersPragma → head.start ≤ t.start) ∨
      BarsCovered false (head.tokensInside tokens))
    {e : Engine} {s : Session} (hengine : s.engine = some e) (hserves : e.logger.Serves s.levels)
    (hholds : e.HoldsAt (lambdaSource (head.rawBody source) head.delims.changeTag?)) :
    ∃ t s' ns, loadText (head.rawBody source) head.delims.changeTag? s = .ok t s' ∧
      t.IsOf e (lambdaSource (head.rawBody source) head.delims.changeTag?) ∧
        t.tree.body = head.delims.leadNodes ++ ns ∧ AllMatch body ns := by
  obtain ⟨-, tree', ns, htree', hbody, hmatch⟩ :=
    exists_parse_rawBody htokens htree hblock hbars .null
  obtain ⟨t, lambdas, records, nextTemplate, hrun, ht, -⟩ :=
    loadText_of_parse hengine hholds hserves htree'
  have hsame : t.tree = tree' := Except.ok.inj (ht.tree.symm.trans htree')
  exact ⟨t, _, ns, hrun, ht, hsame ▸ hbody, hmatch⟩

end

/-- The raw text of a section with an interpolation in it. -/
theorem loadText_rawBody_interpolation : ∃ t s' ns,
    loadText "\x7b\x7ba\x7d\x7d" none { (default : Session) with engine := some .unused } =
      .ok t s' ∧ t.tree.body = ns ∧
        AllMatch [.interpolation ⟨1, 6⟩ "a" true [] .usual] ns := by
  let source := "\x7b\x7b#w\x7d\x7d\x7b\x7ba\x7d\x7d\x7b\x7b/w\x7d\x7d"
  let opener : Token := ⟨.sectionStart, "w", ⟨1, 0⟩, 0, 6, .usual, ""⟩
  let inner : Token := ⟨.interpolation, "a", ⟨1, 6⟩, 6, 11, .usual, ""⟩
  let closer : Token := ⟨.sectionEnd, "w", ⟨1, 11⟩, 11, 17, .usual, ""⟩
  have htokens : tokenize source .null .usual = .ok [opener, inner, closer] :=
    eq_ok_of_toOption_eq_some (by decide +kernel)
  have hreads : Reads false (opener :: ([inner] ++ closer :: [])) _ :=
    .block (.inl rfl) (by rfl) rfl rfl (.leaf rfl .nil) .nil
  obtain ⟨tree, htree, hbody⟩ := exists_parse_iff.2 ⟨_, htokens, hreads⟩
  obtain ⟨tokens, htokens', htree'⟩ := parse_eq_ok_iff.1 htree
  obtain rfl := Except.ok.inj (htokens.symm.trans htokens')
  have hblock : HasBlock (sectionOf opener closer "w" [])
      [.interpolation ⟨1, 6⟩ "a" true [] .usual] tree.body := by
    rw [hbody]
    exact .here
  have hraw : (sectionOf opener closer "w" []).rawBody source = "\x7b\x7ba\x7d\x7d" := by
    decide +kernel
  obtain ⟨t, s', ns, hload, -, hnodes, hmatch⟩ := loadText_rawBody htokens htree' hblock
    (.inl (by decide)) (e := .unused)
    (s := { (default : Session) with engine := some .unused }) rfl
    (Logger.serves_of_adapters_eq_nil rfl _) (Engine.holdsAt_forget .unused _)
  rw [hraw] at hload
  exact ⟨t, s', ns, hload, hnodes, hmatch⟩

/-- A section with a filter in the section of a lambda, behind the pragma for filters. -/
def filteredSource : String :=
  "\x7b\x7b%FILTERS\x7d\x7d\x7b\x7b#w\x7d\x7d\x7b\x7b#b|f\x7d\x7dx\x7b\x7b/b\x7d\x7d\x7b\x7b/w\x7d\x7d"

/-- The tokens of the section with a filter, when it stands some characters further on. -/
def filteredTokens (k : Nat) : List Token :=
  [⟨.sectionStart, "b|f", ⟨1, k⟩, k, k + 8, .usual, ""⟩, ⟨.text, "x", ⟨1, k + 8⟩, k + 8, k + 9,
    .usual, ""⟩, ⟨.sectionEnd, "b", ⟨1, k + 9⟩, k + 9, k + 15, .usual, ""⟩]

/-- The raw text of the outer section is refused: without the pragma, what closes the inner section
has not the name that opens it. -/
theorem exists_rawBody_not_loaded : ∃ tree head body e,
    parse filteredSource .null .usual = .ok tree ∧ HasBlock head body tree.body ∧
      loadText (head.rawBody filteredSource) head.delims.changeTag?
        { (default : Session) with engine := some .unused } =
          .error (.template (.malformed e)) { (default : Session) with
            engine := some .unused, asked := [head.rawBody filteredSource] } ∧
      e.cause = .mismatchedClose "b|f" "b" := by
  let opener : Token := ⟨.sectionStart, "w", ⟨1, 12⟩, 12, 18, .usual, ""⟩
  let closer : Token := ⟨.sectionEnd, "w", ⟨1, 33⟩, 33, 39, .usual, ""⟩
  have htokens : tokenize filteredSource .null .usual =
      .ok (⟨.pragma, "FILTERS", ⟨1, 0⟩, 0, 12, .usual, ""⟩ ::
        opener :: (filteredTokens 18 ++ [closer])) :=
    eq_ok_of_toOption_eq_some (by decide +kernel)
  have hsplit : splitFilters true "b|f" = some ("b", ["f"]) :=
    splitFilters_of_fields (by decide) rfl rfl
  have hother : splitFilters true "b" = some ("b", []) := splitFilters_of_not_mem (by decide) true
  have houter : splitFilters true "w" = some ("w", []) := splitFilters_of_not_mem (by decide) true
  have hinner : Reads true (filteredTokens 18) _ :=
    .block (.inl rfl) (by rfl) hsplit hother (.leaf rfl .nil) .nil
  obtain ⟨tree, htree, hbody⟩ := exists_parse_iff.2
    ⟨_, htokens, .leaf rfl (.block (.inl rfl) (by rfl) houter houter hinner .nil)⟩
  obtain ⟨body, hblock⟩ : ∃ body, HasBlock (sectionOf opener closer "w" []) body tree.body := by
    rw [hbody]
    exact ⟨_, .behind .here⟩
  have hraw : (sectionOf opener closer "w" []).rawBody filteredSource =
      "\x7b\x7b#b|f\x7d\x7dx\x7b\x7b/b\x7d\x7d" := by decide +kernel
  have hrefused :
      parse (lambdaSource "\x7b\x7b#b|f\x7d\x7dx\x7b\x7b/b\x7d\x7d" none) .null .usual =
      .error (.malformed ⟨.mismatchedClose "b|f" "b", some 1, some 9, .null,
        some "\x7b\x7b#b|f\x7d\x7dx\x7b\x7b/b\x7d\x7d"⟩) := by
    have htext : tokenize "\x7b\x7b#b|f\x7d\x7dx\x7b\x7b/b\x7d\x7d" .null .usual =
        .ok (filteredTokens 0) := eq_ok_of_toOption_eq_some (by decide +kernel)
    unfold parse lambdaSource
    rw [htext]
    rfl
  have hfault := loadText_of_error (s := { (default : Session) with engine := some .unused })
    (e := .unused) rfl (Engine.holdsAt_forget .unused _) hrefused
  rw [← hraw] at hfault
  exact ⟨tree, _, _, _, htree, hblock, hfault, rfl⟩

end Mustache
