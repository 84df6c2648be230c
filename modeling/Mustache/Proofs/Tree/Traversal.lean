import Mathlib.Data.List.Forall2
import Mustache.Proofs.Token.Decomposition
import Mustache.Proofs.Tree.Nesting

/-!
# Trees and their tokens

Tokens have a tree exactly if they are properly nested. The builder reads them in order, and what
it has read can be told from its state: a traversal of the nodes that are set aside, of the
opening tags that wait for their closing tags, and of the nodes of the innermost section meets
the tokens that have been read. So a traversal of the finished tree meets every token once and
in order, and an error is about the first token that is out of place.

## Main definitions

* `Mustache.Mark`, `Mustache.Node.marks`, `Mustache.Reading.mark` — what a traversal meets, in a
  tree and in a token list.
* `Mustache.Builder.Follows` — the builder has the given sections open.

## Main results

* `Mustache.Builder.step_of_fits`, `Mustache.Builder.step_of_misfit` — what reading a token does.
* `Mustache.Builder.steps_of_fits`, `Mustache.Builder.steps_of_firstMisfit` — the same for a run.
* `Mustache.parseTokens_spec` — which token lists have a tree, what a traversal of it meets, and
  which error there is otherwise.
-/

namespace Mustache

/-! ## Traversals -/

/-- What a traversal meets. -/
inductive Mark where
  /-- A node without nodes in it, by the kind of its tag, its place and its name or content. -/
  | leaf (kind : TokenKind) (place : Place) (name : String)
  /-- A change of delimiters. -/
  | change (place : Place) (delims : Option Delimiters)
  /-- The opening tag of a section, which ends at the offset `stop`. -/
  | opening (kind : TokenKind) (place : Place) (name : String) (stop : Nat)
  /-- The closing tag of a section, which starts at the offset `start`. -/
  | closing (name : String) (start : Nat)
  /-- A node that stands for no tag. -/
  | foreign

mutual

/-- What a traversal of a node meets, in order: the opening tag of a section, then its nodes, then
its closing tag. -/
def Node.marks : Node → List Mark
  | .text place value => [.leaf .text place value]
  | .interpolation place name escaped _ _ =>
    [.leaf (if escaped then .interpolation else .rawInterpolation) place name]
  | .block head body =>
    .opening (if head.inverted then .invertedStart else .sectionStart) head.place head.name
      head.start :: (marksOf body ++ [.closing head.name head.stop])
  | .inclusion place name _ => [.leaf .inclusion place name]
  | .comment place value => [.leaf .comment place value]
  | .delimiterChange place delims => [.change place (some delims)]
  | .pragma place name => [.leaf .pragma place name]
  | .flawed _ => [.foreign]

/-- What a traversal of some nodes meets. -/
def marksOf : List Node → List Mark
  | [] => []
  | n :: ns => n.marks ++ marksOf ns

end

theorem marksOf_append (ns ms : List Node) : marksOf (ns ++ ms) = marksOf ns ++ marksOf ms := by
  induction ns with
  | nil => rfl
  | cons n ns ih => rw [List.cons_append, marksOf, marksOf, ih, List.append_assoc]

/-- A delimiter change holds two words. -/
def Token.HasWords (t : Token) : Prop :=
  t.kind = .delimiterChange → (Delimiters.ofWords? t.value.toList).isSome = true

/-- What a traversal should meet for a tag among the open sections: the kind, the place and the
name, where a closing tag is read as the innermost opening tag. -/
def Reading.mark (opened : List Reading) (r : Reading) : Mark :=
  match r.token.kind with
  | .interpolation | .rawInterpolation => .leaf r.token.kind r.token.place r.name
  | .sectionStart | .invertedStart => .opening r.token.kind r.token.place r.name r.token.stop
  | .sectionEnd =>
    .closing ((opened.head?.map fun opener => (r.under opener).name).getD r.token.value)
      r.token.start
  | .delimiterChange => .change r.token.place (Delimiters.ofWords? r.token.value.toList)
  | .text | .inclusion | .comment | .pragma => .leaf r.token.kind r.token.place r.token.value

theorem Reading.Opens.mark_eq {r : Reading} (h : r.Opens) (opened : List Reading) :
    r.mark opened = .opening r.token.kind r.token.place r.name r.token.stop := by
  unfold mark
  rcases h with hk | hk <;> simp only [hk]

theorem Reading.Closes.mark_eq {r : Reading} (h : r.Closes) (opener : Reading)
    (outer : List Reading) :
    r.mark (opener :: outer) = .closing (r.under opener).name r.token.start := by
  unfold mark
  rw [show r.token.kind = .sectionEnd from h]
  rfl

/-- What a traversal should meet for some tags, one after the other. -/
def marksFrom (opened : List Reading) : List Reading → List Mark
  | [] => []
  | r :: rs => r.mark opened :: marksFrom (nextOpen opened r) rs

/-! ## The state of the builder -/

/-- An open section is the one of an opening tag. -/
structure OpenSection.IsOf (s : OpenSection) (r : Reading) : Prop where
  opener : s.opener = r.token
  filtersActive : s.filtersActive = r.filtered
  name : s.name = r.name
  opens : r.Opens

/-- What a traversal meets up to the nodes of an open section. -/
def OpenSection.marks (s : OpenSection) : List Mark :=
  marksOf s.before.reverse ++ [.opening s.opener.kind s.opener.place s.name s.opener.stop]

namespace Builder

/-- What a traversal of the nodes that have been read meets. -/
def marks (b : Builder) : List Mark :=
  b.sections.reverse.flatMap OpenSection.marks ++ marksOf b.body.reverse

/-- The builder has the sections of the tags `opened` open, and knows whether filters are
available. -/
structure Follows (b : Builder) (filtered : Bool) (opened : List Reading) : Prop where
  filtersActive : b.filtersActive = filtered
  sections : List.Forall₂ OpenSection.IsOf b.sections opened

theorem follows_empty : empty.Follows false [] := ⟨rfl, .nil⟩

/-! ## Steps of the builder -/

/-- The parts of a tag, or the error. -/
theorem split_cases (active : Bool) (t : Token) :
    BadlyFiltered active t.value ∧ split active t = .error (.refused (.emptyFilter t.value) t) ∨
      ¬ BadlyFiltered active t.value ∧
        ∃ filters, split active t = .ok (tagName active t.value, filters) := by
  unfold split
  rcases splitFilters_cases active t.value with ⟨hbad, h⟩ | ⟨hgood, filters, h⟩
  · exact .inl ⟨hbad, by rw [h]⟩
  · exact .inr ⟨hgood, filters, by rw [h]⟩

/-- The parts of a tag that is not badly filtered. -/
theorem split_of_good {active : Bool} {t : Token} (h : ¬ BadlyFiltered active t.value) :
    ∃ filters, split active t = .ok (tagName active t.value, filters) :=
  (split_cases active t).resolve_left (fun hbad => h hbad.1) |>.2

/-- The error for a badly filtered tag. -/
theorem split_of_bad {active : Bool} {t : Token} (h : BadlyFiltered active t.value) :
    split active t = .error (.refused (.emptyFilter t.value) t) :=
  (split_cases active t).resolve_right (fun hgood => hgood.1 h) |>.2

/-- A node more is a mark more. -/
theorem marks_push (b : Builder) (n : Node) : (b.push n).marks = b.marks ++ n.marks := by
  simp only [marks, push, List.reverse_cons, marksOf_append, marksOf, List.append_nil,
    List.append_assoc]

variable {b : Builder} {filtered : Bool} {opened : List Reading} {t : Token}

/-- A tag that is out of place is refused. -/
theorem step_of_misfit {cause : Malformation} (h : b.Follows filtered opened)
    (hmisfit : Misfit opened ⟨t, filtered⟩ cause) : b.step t = .error (.refused cause t) := by
  obtain ⟨hactive, hsections⟩ := h
  unfold step
  cases hmisfit with
  | unexpectedClose hc =>
    rw [show t.kind = .sectionEnd from hc]
    simp only [closeSection, List.forall₂_nil_right_iff.1 hsections]
  | @badClose opener _ _ hc hbad =>
    rw [show t.kind = .sectionEnd from hc]
    obtain ⟨s, outer, hs, -, hb⟩ := List.forall₂_cons_right_iff.1 hsections
    have hsplit : split opener.filtered t = .error (.refused (.emptyFilter t.value) t) :=
      split_of_bad hbad
    simp only [closeSection, hb, hs.filtersActive, hsplit]
  | @mismatchedClose opener _ _ hc hgood hother =>
    rw [show t.kind = .sectionEnd from hc]
    obtain ⟨s, outer, hs, -, hb⟩ := List.forall₂_cons_right_iff.1 hsections
    obtain ⟨filters, hsplit⟩ : ∃ filters,
        split opener.filtered t = .ok (tagName opener.filtered t.value, filters) :=
      split_of_good hgood
    simp only [closeSection, hb, hs.filtersActive, hsplit, hs.name]
    exact if_neg hother
  | badTag hnames hbad =>
    rcases hnames with (hk | hk) | hk | hk <;> rw [show t.kind = _ from hk]
    all_goals simp only [openSection, interpolate, hactive, split_of_bad hbad]

/-- Reading an opening tag. -/
theorem openSection_of_fits (h : b.Follows filtered opened) (ho : (Reading.mk t filtered).Opens)
    (hfits : Fits opened [⟨t, filtered⟩]) :
    ∃ b', b.openSection t = .ok b' ∧ b'.Follows filtered (nextOpen opened ⟨t, filtered⟩) ∧
      b'.marks = b.marks ++ [(Reading.mk t filtered).mark opened] := by
  obtain ⟨filters, hsplit⟩ :
      ∃ filters, split filtered t = .ok (tagName filtered t.value, filters) :=
    split_of_good ((fits_cons_of_opens ho).1 hfits).1
  unfold openSection
  rw [h.filtersActive]
  simp only [hsplit]
  refine ⟨_, rfl, ?_, ?_⟩
  · rw [nextOpen_of_opens ho]
    exact ⟨h.filtersActive, .cons ⟨rfl, rfl, rfl, ho⟩ h.sections⟩
  · rw [ho.mark_eq]
    simp only [marks, List.reverse_cons, List.flatMap_append, List.flatMap_singleton,
      OpenSection.marks, List.reverse_nil, marksOf, List.append_nil, List.append_assoc]
    rfl

/-- Reading a closing tag: the nodes of the section, between the marks of its tags. -/
theorem closeSection_of_fits (h : b.Follows filtered opened) (hc : (Reading.mk t filtered).Closes)
    (hfits : Fits opened [⟨t, filtered⟩]) :
    ∃ b', b.closeSection t = .ok b' ∧ b'.Follows filtered (nextOpen opened ⟨t, filtered⟩) ∧
      b'.marks = b.marks ++ [(Reading.mk t filtered).mark opened] := by
  obtain ⟨opener, outer, rfl, hgood, hsame, -⟩ := (fits_cons_of_closes hc).1 hfits
  obtain ⟨s, sections, hs, hsections, hb⟩ := List.forall₂_cons_right_iff.1 h.sections
  obtain ⟨filters, hsplit⟩ : ∃ filters,
      split opener.filtered t = .ok (tagName opener.filtered t.value, filters) :=
    split_of_good hgood
  have hname : tagName opener.filtered t.value = s.name := by
    rw [hs.name]
    exact hsame
  unfold closeSection
  simp only [hb, hs.filtersActive, hsplit, if_pos hname]
  refine ⟨_, rfl, ?_, ?_⟩
  · rw [nextOpen_of_closes hc]
    exact ⟨h.filtersActive, hsections⟩
  · have hkind :
        (if (s.opener.kind == .invertedStart) = true then .invertedStart else .sectionStart) =
          s.opener.kind := by
      rw [hs.opener]
      rcases hs.opens with hk | hk <;> simp [hk]
    rw [hc.mark_eq, show (Reading.mk t filtered |>.under opener).name = s.name from hname]
    simp only [marks, hb, List.reverse_cons, marksOf_append, marksOf, Node.marks, hkind,
      List.flatMap_append, List.flatMap_singleton, OpenSection.marks, List.append_nil,
      List.append_assoc, List.cons_append, List.nil_append]

/-- Reading a token that neither opens nor closes a section: one more node, and the name of a
pragma is kept. -/
theorem step_of_leaf (h : b.filtersActive = filtered) (ho : ¬ (Reading.mk t filtered).Opens)
    (hc : ¬ (Reading.mk t filtered).Closes) (hfits : Fits opened [⟨t, filtered⟩])
    (hwords : t.HasWords) :
    ∃ n : Node, n.marks = [(Reading.mk t filtered).mark opened] ∧ b.step t = .ok { b.push n with
      pragmas := if t.kind = .pragma then t.value :: b.pragmas else b.pragmas } := by
  have hgood := ((fits_cons_of_leaf ho hc).1 hfits).1
  have hsplit (hi : (Reading.mk t filtered).Interpolates) :
      ∃ filters, split filtered t = .ok (tagName filtered t.value, filters) :=
    split_of_good (hgood hi)
  unfold step Reading.mark
  cases hk : t.kind with
  | text => exact ⟨_, rfl, rfl⟩
  | inclusion => exact ⟨_, rfl, rfl⟩
  | comment => exact ⟨_, rfl, rfl⟩
  | pragma => exact ⟨_, rfl, rfl⟩
  | interpolation =>
    obtain ⟨filters, hsplit⟩ := hsplit (.inl hk)
    refine ⟨.interpolation t.place (tagName filtered t.value) true filters t.delims, rfl, ?_⟩
    simp [interpolate, h, hsplit, hk, push]
  | rawInterpolation =>
    obtain ⟨filters, hsplit⟩ := hsplit (.inr hk)
    refine ⟨.interpolation t.place (tagName filtered t.value) false filters t.delims, rfl, ?_⟩
    simp [interpolate, h, hsplit, hk, push]
  | sectionStart => exact absurd (.inl hk) ho
  | invertedStart => exact absurd (.inr hk) ho
  | sectionEnd => exact absurd hk hc
  | delimiterChange =>
    obtain ⟨d, hd⟩ := Option.isSome_iff_exists.1 (hwords hk)
    obtain ⟨first, second, hsplit, -, -, rfl⟩ := Delimiters.ofWords?_eq_some_iff.1 hd
    refine ⟨.delimiterChange t.place ⟨String.ofList first, String.ofList second⟩, ?_, ?_⟩
    · simp only [Node.marks, hd]
    · simp [changeDelimiters, hsplit, push]

/-- **A tag that is in place is read**: the builder follows the open sections, and what a traversal
meets becomes longer by the tag. -/
theorem step_of_fits (h : b.Follows filtered opened) (hfits : Fits opened [⟨t, filtered⟩])
    (hwords : t.HasWords) :
    ∃ b', b.step t = .ok b' ∧
      b'.Follows (filtered || decide t.IsFiltersPragma) (nextOpen opened ⟨t, filtered⟩) ∧
      b'.marks = b.marks ++ [(Reading.mk t filtered).mark opened] := by
  by_cases ho : (Reading.mk t filtered).Opens
  · have hstep : b.step t = b.openSection t := by
      unfold step
      rcases ho with hk | hk <;> rw [show t.kind = _ from hk]
    have hno : ¬ t.IsFiltersPragma := fun hp => ho.ne_pragma hp.1
    rw [hstep, decide_eq_false hno, Bool.or_false]
    exact openSection_of_fits h ho hfits
  · by_cases hc : (Reading.mk t filtered).Closes
    · have hstep : b.step t = b.closeSection t := by
        unfold step
        rw [show t.kind = .sectionEnd from hc]
      have hno : ¬ t.IsFiltersPragma := fun hp => hc.ne_pragma hp.1
      rw [hstep, decide_eq_false hno, Bool.or_false]
      exact closeSection_of_fits h hc hfits
    · obtain ⟨n, hn, hstep⟩ := step_of_leaf h.filtersActive ho hc hfits hwords
      refine ⟨_, hstep, ⟨?_, ?_⟩, ?_⟩
      · rw [← h.filtersActive]
        unfold filtersActive Token.IsFiltersPragma
        by_cases hp : t.kind = .pragma
        · simp only [hp, if_true, List.contains_cons, true_and]
          rw [Bool.or_comm, Bool.beq_comm]
          rfl
        · simp [hp]
      · rw [nextOpen_of_leaf ho hc]
        exact h.sections
      · rw [← hn]
        exact marks_push b n

/-! ## Runs of the builder -/

/-- The tree when no section is open. -/
theorem exists_finish {b : Builder} (h : b.sections = []) :
    ∃ tree, b.finish = .ok tree ∧ tree.body = b.body.reverse := by
  unfold finish
  rw [h]
  exact ⟨_, rfl, rfl⟩

/-- Tags that are in place are read. -/
theorem steps_of_fits {tokens : List Token} (h : b.Follows filtered opened)
    (hfits : Fits opened (readingsFrom filtered tokens))
    (hwords : ∀ t ∈ tokens, t.HasWords) :
    ∃ b' filtered', b.steps tokens = .ok b' ∧
      b'.Follows filtered' (openAfter opened (readingsFrom filtered tokens)) ∧
      b'.marks = b.marks ++ marksFrom opened (readingsFrom filtered tokens) := by
  induction tokens generalizing b filtered opened with
  | nil => exact ⟨b, filtered, rfl, h, (List.append_nil _).symm⟩
  | cons t ts ih =>
    rw [List.forall_mem_cons] at hwords
    obtain ⟨b', hstep, hb', hmarks⟩ := step_of_fits h ⟨hfits.1, trivial⟩ hwords.1
    obtain ⟨b'', filtered', hsteps, hb'', hmarks'⟩ := ih hb' hfits.2 hwords.2
    refine ⟨b'', filtered', ?_, hb'', ?_⟩
    · rw [steps, hstep]
      exact hsteps
    · rw [hmarks', hmarks, List.append_assoc]
      rfl

/-- The first tag that is out of place is refused. -/
theorem steps_of_firstMisfit {tokens : List Token} {r : Reading} {cause : Malformation}
    (h : b.Follows filtered opened)
    (hmisfit : FirstMisfit opened (readingsFrom filtered tokens) r cause)
    (hwords : ∀ t ∈ tokens, t.HasWords) :
    b.steps tokens = .error (.refused cause r.token) := by
  obtain ⟨before, after, heq, hfits, hmisfit⟩ := hmisfit
  induction tokens generalizing b filtered opened before with
  | nil => simp [readingsFrom] at heq
  | cons t ts ih =>
    rw [List.forall_mem_cons] at hwords
    rw [readingsFrom] at heq
    cases before with
    | nil =>
      obtain ⟨rfl, -⟩ := List.cons.inj heq
      rw [steps, step_of_misfit h hmisfit]
    | cons r' before =>
      rw [List.cons_append, List.cons.injEq] at heq
      obtain ⟨rfl, hrest⟩ := heq
      obtain ⟨b', hstep, hb', -⟩ := step_of_fits h ⟨hfits.1, trivial⟩ hwords.1
      rw [steps, hstep]
      exact ih hb' hwords.2 before hrest hfits.2 hmisfit

end Builder

/-! ## The parser -/

/-- The delimiter changes that the scanner yields have two words. -/
theorem Scanned.hasWords {d : Delimiters} {pos : Position} {text : List Char}
    {tokens : List Token} (h : Scanned d pos text tokens) : ∀ t ∈ tokens, t.HasWords := by
  induction h with
  | last _ =>
    rintro t ht hk
    obtain ⟨-, rfl⟩ := mem_textToken_iff.1 ht
    simp at hk
  | @tag d changed pos text before body tag tokens found read change _ ih =>
    rintro t ht hk
    rcases mem_tagTokens_append_iff.1 ht with ht | rfl | ht
    · obtain ⟨-, rfl⟩ := mem_textToken_iff.1 ht
      simp at hk
    · rw [kind_tagToken] at hk
      rcases Delimiters.delimsAfter_eq_ok_iff.1 change with ⟨-, hwords⟩ | ⟨hother, -⟩
      · rw [tagToken, String.toList_ofList, hwords]
        rfl
      · exact absurd hk hother
    · exact ih t ht hk

/-- The tree of tokens that fit and leave no section open. -/
theorem buildTree_of_nested {tokens : List Token} (h : Nested (readings tokens))
    (hwords : ∀ t ∈ tokens, t.HasWords) :
    ∃ tree, buildTree tokens = .ok tree ∧ marksOf tree.body = marksFrom [] (readings tokens) := by
  obtain ⟨hfits, hopen⟩ := nested_iff_fits.1 h
  obtain ⟨b, _, hsteps, hb, hmarks⟩ := Builder.steps_of_fits Builder.follows_empty hfits hwords
  rw [show openAfter [] (readingsFrom false tokens) = [] from hopen] at hb
  have hsections := List.forall₂_nil_right_iff.1 hb.sections
  obtain ⟨tree, hfinish, hbody⟩ := Builder.exists_finish hsections
  refine ⟨tree, by simp only [buildTree, hsteps, hfinish], ?_⟩
  rw [hbody]
  simpa [Builder.marks, hsections, Builder.empty, marksOf, readings] using hmarks

/-- The error for tokens of which one is out of place. -/
theorem buildTree_of_firstMisfit {tokens : List Token} {r : Reading} {cause : Malformation}
    (h : FirstMisfit [] (readings tokens) r cause)
    (hwords : ∀ t ∈ tokens, t.HasWords) :
    buildTree tokens = .error (.refused cause r.token) := by
  rw [buildTree, Builder.steps_of_firstMisfit Builder.follows_empty h hwords]

/-- The error for tokens that fit and leave a section open. -/
theorem buildTree_of_open {tokens : List Token} {r : Reading} {outer : List Reading}
    (hfits : Fits [] (readings tokens)) (hopen : openAfter [] (readings tokens) = r :: outer)
    (hwords : ∀ t ∈ tokens, t.HasWords) :
    buildTree tokens = .error (.refused (.unclosedSection r.token.value) r.token) := by
  obtain ⟨b, _, hsteps, hb, -⟩ := Builder.steps_of_fits Builder.follows_empty hfits hwords
  rw [show openAfter [] (readingsFrom false tokens) = r :: outer from hopen] at hb
  obtain ⟨s, sections, hs, -, hsections⟩ := List.forall₂_cons_right_iff.1 hb.sections
  rw [buildTree, hsteps]
  simp only [Builder.finish, hsections, hs.opener]

/-- Tokens that are properly nested have a tree, and others have an error.

**Proof sketch.** Either all tags are in place or there is a first one that is not; and either
no section is left open or there is an innermost one. In each of the three cases the run of the
builder is known. -/
theorem buildTree_cases {tokens : List Token}
    (hwords : ∀ t ∈ tokens, t.HasWords) :
    (Nested (readings tokens) ∧ ∃ tree, buildTree tokens = .ok tree ∧
      marksOf tree.body = marksFrom [] (readings tokens)) ∨
    ¬ Nested (readings tokens) ∧ ∃ cause r, buildTree tokens = .error (.refused cause r.token) ∧
      (FirstMisfit [] (readings tokens) r cause ∨
        Fits [] (readings tokens) ∧ (openAfter [] (readings tokens)).head? = some r ∧
          cause = .unclosedSection r.token.value) := by
  rcases fits_or_exists_firstMisfit [] (readings tokens) with hfits | ⟨r, cause, hmisfit⟩
  · cases hopen : openAfter [] (readings tokens) with
    | nil =>
      have hnested := nested_iff_fits.2 ⟨hfits, hopen⟩
      exact .inl ⟨hnested, buildTree_of_nested hnested hwords⟩
    | cons r outer =>
      refine .inr ⟨fun hnested => ?_, _, r, buildTree_of_open hfits hopen hwords,
        .inr ⟨hfits, rfl, rfl⟩⟩
      rw [(nested_iff_fits.1 hnested).2] at hopen
      simp at hopen
  · refine .inr ⟨fun hnested => ?_, cause, r, buildTree_of_firstMisfit hmisfit hwords,
      .inl hmisfit⟩
    obtain ⟨before, after, heq, -, hr⟩ := hmisfit
    have hfits := (nested_iff_fits.1 hnested).1
    rw [heq, fits_append_iff] at hfits
    exact hfits.2.1 cause hr

/-- A traversal of the tree of some tokens meets these tokens. -/
theorem marksOf_of_buildTree {tokens : List Token} {tree : Tree}
    (hwords : ∀ t ∈ tokens, t.HasWords)
    (h : buildTree tokens = .ok tree) : marksOf tree.body = marksFrom [] (readings tokens) := by
  rcases buildTree_cases hwords with ⟨-, tree', htree', hmarks⟩ | ⟨-, cause, r, herror, -⟩
  · rw [htree', Except.ok.injEq] at h
    rw [← h]
    exact hmarks
  · rw [herror] at h
    simp at h

/-- The tokens of a template are parsed if they have a tree. -/
theorem parseTokens_eq_ok_iff {tokens : List Token} {name : Value} {shown : Option String}
    {tree : Tree} : parseTokens tokens name shown = .ok tree ↔ buildTree tokens = .ok tree := by
  unfold parseTokens
  split <;> simp [*]

/-- A source is parsed if it is tokenized and its tokens are parsed. -/
theorem parse_eq_ok_iff {source : String} {name : Value} {d : Delimiters} {tree : Tree} :
    parse source name d = .ok tree ↔ ∃ tokens, tokenize source name d = .ok tokens ∧
      parseTokens tokens name (some source) = .ok tree := by
  unfold parse
  cases tokenize source name d <;> simp

/-- Every tag stands for a node of its own kind. -/
theorem Reading.mark_ne_foreign (opened : List Reading) (r : Reading) : r.mark opened ≠ .foreign := by
  unfold mark
  split <;> simp

theorem foreign_notMem_marksFrom (opened rs : List Reading) : .foreign ∉ marksFrom opened rs := by
  induction rs generalizing opened with
  | nil => simp [marksFrom]
  | cons r rs ih =>
    rw [marksFrom, List.mem_cons, not_or]
    exact ⟨(r.mark_ne_foreign opened).symm, ih _⟩

/-- **The tree of a source has nodes for its tags only.** -/
theorem foreign_notMem_of_parse {source : String} {name : Value} {d : Delimiters} {tree : Tree}
    (h : parse source name d = .ok tree) : .foreign ∉ marksOf tree.body := by
  obtain ⟨tokens, htokens, htree⟩ := parse_eq_ok_iff.1 h
  rw [marksOf_of_buildTree (tokenize_eq_ok_iff.1 htokens).hasWords (parseTokens_eq_ok_iff.1 htree)]
  exact foreign_notMem_marksFrom [] _

/-- **Which tokens have a tree, and which error there is otherwise.** Tokens of the scanner have a
tree exactly if they are properly nested. A traversal of the tree meets every token once, in
order, with its kind, its place and its name, and at a section the end of the opening and the
start of the closing tag. Without a tree, the error is about the first tag that is out of place,
or, if there is none, about the innermost section that is left open. -/
theorem parseTokens_spec {source : String} {scanned : Value} {d : Delimiters} {tokens : List Token}
    (h : tokenize source scanned d = .ok tokens) (name : Value) (shown : Option String) :
    ((∃ tree, parseTokens tokens name shown = .ok tree) ↔ Nested (readings tokens)) ∧
    (∀ tree, parseTokens tokens name shown = .ok tree →
      marksOf tree.body = marksFrom [] (readings tokens)) ∧
    ∀ e, parseTokens tokens name shown = .error e → ∃ cause r,
      e = .malformed (malformedAt cause r.token name shown) ∧
        (FirstMisfit [] (readings tokens) r cause ∨
          Fits [] (readings tokens) ∧ (openAfter [] (readings tokens)).head? = some r ∧
            cause = .unclosedSection r.token.value) := by
  have hwords := (tokenize_eq_ok_iff.1 h).hasWords
  refine ⟨?_, fun tree htree => marksOf_of_buildTree hwords (parseTokens_eq_ok_iff.1 htree), ?_⟩
  · rcases buildTree_cases hwords with ⟨hnested, tree, htree, -⟩ | ⟨hnot, cause, r, herror, -⟩
    · exact ⟨fun _ => hnested, fun _ => ⟨tree, parseTokens_eq_ok_iff.2 htree⟩⟩
    · simp only [parseTokens_eq_ok_iff, herror, reduceCtorEq, exists_false, hnot]
  · intro e he
    rcases buildTree_cases hwords with ⟨-, tree, htree, -⟩ | ⟨-, cause, r, herror, hcause⟩
    · rw [parseTokens_eq_ok_iff.2 htree] at he
      simp at he
    · rw [parseTokens, herror] at he
      exact ⟨cause, r, (Except.error.inj he).symm, hcause⟩

/-- An interpolation in a section. -/
theorem parseTokens_spec_section : ∃ tokens,
    tokenize "\x7b\x7b#a\x7d\x7d\x7b\x7bb\x7d\x7d\x7b\x7b/a\x7d\x7d" .null .usual = .ok tokens ∧
      Nested (readings tokens) := by
  have hok : (parse "\x7b\x7b#a\x7d\x7d\x7b\x7bb\x7d\x7d\x7b\x7b/a\x7d\x7d" .null
      .usual).toOption.isSome = true := by
    decide +kernel
  obtain ⟨tree, htree⟩ := exists_eq_ok_of_isSome_toOption hok
  obtain ⟨tokens, htokens, htree⟩ := parse_eq_ok_iff.1 htree
  exact ⟨tokens, htokens, (parseTokens_spec htokens .null _).1.1 ⟨tree, htree⟩⟩

end Mustache
