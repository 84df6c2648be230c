import Mustache.Proofs.Render.OutlineLike
import Mustache.Proofs.Render.Outlined
import Mustache.Proofs.Token.Crlf

/-!
# Rendering with other line ends

If a source and everything that it may include have other line ends, then so has what is rendered
for data without callables: the tags are the same, the texts and the lines that are included have
the other line ends, and nothing else has any, as long as no value is written with a newline.

## Main definitions

* `Mustache.Convertible` — a source that may have other line ends.
* `Mustache.Outline.WritesInline` — an outline whose values are written without newlines.

## Main results

* `Mustache.Convertible.parse_crlf`, `Mustache.Convertible.exists_parse_of_crlf` — the tree of the
  source with the other line ends.
* `Mustache.outlineSource_crlf` — its outline.
* `Mustache.render_crlf` — what is rendered.
-/

namespace Mustache

/-! ## Sources -/

/-- The second text is the first one with the other line ends. -/
def IsCrlf (s s' : String) : Prop := s' = crlf s

/-- **A source that may have other line ends**: it has no carriage returns, and only comments and
delimiter changes go over several lines. -/
structure Convertible (source : String) : Prop where
  noReturn : '\r' ∉ source.toList
  tags : ∀ tokens, tokenize source .null .usual = .ok tokens → ∀ t ∈ tokens, t.kind ≠ .text →
    t.kind ≠ .comment → t.kind ≠ .delimiterChange → '\n' ∉ t.value.toList

/-- A tag without newlines says the same. -/
theorem Token.Converted.like {t t' : Token} (h : t.Converted t')
    (hvalue : t.kind ≠ .text → t.kind ≠ .comment → t.kind ≠ .delimiterChange →
      '\n' ∉ t.value.toList) : t.Like IsCrlf t' where
  kind := h.kind
  text _ := h.value
  value h₁ h₂ h₃ := h.value.trans (crlf_eq_self (hvalue h₁ h₂ h₃))
  words _ := by rw [h.value, toList_crlf, Text.words_crlf]
  indent := h.indent
  margin := (crlf_eq_self h.margin).symm

section

variable {source : String}

/-- **The tokens of the source with the other line ends** say the same. -/
theorem Convertible.tokenize_crlf (h : Convertible source) {tokens : List Token}
    (htokens : tokenize source .null .usual = .ok tokens) :
    ∃ tokens', tokenize (crlf source) .null .usual = .ok tokens' ∧
      List.Forall₂ (Token.Like IsCrlf) tokens tokens' := by
  obtain ⟨tokens', hrun, hconverted⟩ :=
    (tokenize_eq_ok_iff.1 htokens).crlf Delimiters.isPlain_usual h.noReturn Iff.rfl
  refine ⟨tokens', ?_, ?_⟩
  · rwa [tokenize_eq_ok_iff, toList_crlf]
  · exact List.forall₂_iff_zip.2 ⟨hconverted.length_eq, fun {t t'} hmem =>
      ((List.forall₂_iff_zip.1 hconverted).2 hmem).like
        (h.tags tokens htokens t (List.of_mem_zip hmem).1)⟩

/-- **The tree of the source with the other line ends** has nodes that say the same. -/
theorem Convertible.parse_crlf (h : Convertible source) {tree : Tree}
    (htree : parse source .null .usual = .ok tree) :
    ∃ tree', parse (crlf source) .null .usual = .ok tree' ∧
      AllLike IsCrlf tree.body tree'.body := by
  obtain ⟨tokens, htokens, hreads⟩ := exists_parse_iff.1 ⟨tree, htree, rfl⟩
  obtain ⟨tokens', htokens', hlike⟩ := h.tokenize_crlf htokens
  obtain ⟨ns', hns', hnodes⟩ := hreads.like hlike
  obtain ⟨tree', htree', rfl⟩ := exists_parse_iff.2 ⟨tokens', htokens', hns'⟩
  exact ⟨tree', htree', hnodes⟩

/-- If the source with the other line ends has a tree, the source has one. -/
theorem Convertible.exists_parse_of_crlf (h : Convertible source) {tree' : Tree}
    (htree' : parse (crlf source) .null .usual = .ok tree') :
    ∃ tree, parse source .null .usual = .ok tree := by
  obtain ⟨tokens', htokens', hreads⟩ := exists_parse_iff.1 ⟨tree', htree', rfl⟩
  have hrun := tokenize_eq_ok_iff.1 htokens'
  rw [toList_crlf] at hrun
  obtain ⟨tokens, hrun⟩ : ∃ tokens, Scanned .usual .start source.toList tokens :=
    hrun.exists_of_crlf Delimiters.isPlain_usual h.noReturn Iff.rfl
  have htokens : tokenize source .null .usual = .ok tokens := tokenize_eq_ok_iff.2 hrun
  obtain ⟨tokens₁, htokens₁, hlike⟩ := h.tokenize_crlf htokens
  obtain rfl := Except.ok.inj (htokens₁.symm.trans htokens')
  obtain ⟨ns, hns, -⟩ := hreads.like (hlike.flip.imp fun _ _ => Token.Like.symm)
  obtain ⟨tree, htree, -⟩ := exists_parse_iff.2 ⟨tokens, htokens, hns⟩
  exact ⟨tree, htree⟩

end

/-! ## Outlines -/

/-- **The outline of a source with the other line ends**, where everything that it may include has
them too.

**Proof sketch.** Induction on the number of levels. The nodes say the same, and what is included is
one level deeper. -/
theorem outlineSource_crlf {includes : String → Option String}
    (hincludes : ∀ name p, includes name = some p → Convertible p) (depth : Nat) {source : String}
    (h : Convertible source) (frames : List Value) :
    (outlineSource includes depth source frames).Like IsCrlf
      (outlineSource (fun name => (includes name).map crlf) depth (crlf source) frames) := by
  induction depth generalizing source frames with
  | zero => exact .none
  | succ depth ih =>
    rw [outlineSource, outlineSource]
    cases htree : parse source .null .usual with
    | error cause =>
      cases htree' : parse (crlf source) .null .usual with
      | error cause' => exact .none
      | ok tree' =>
        obtain ⟨tree, hok⟩ := h.exists_parse_of_crlf htree'
        rw [htree] at hok
        simp at hok
    | ok tree =>
      obtain ⟨tree', htree', hlike⟩ := h.parse_crlf htree
      rw [htree']
      refine outlineNodes_like (fun name frames => ?_) depth hlike frames
      unfold outlineIncluded
      dsimp only
      cases hname : includes name with
      | none => exact .empty
      | some p => exact ih (hincludes name p hname) frames

mutual

/-- The values in a piece. -/
def Piece.values : Piece → List String
  | .text _ => []
  | .value _ _ s => [s]
  | .lines _ ps => valuesOf ps

/-- The values in pieces in order. -/
def valuesOf : List Piece → List String
  | [] => []
  | p :: ps => p.values ++ valuesOf ps

end

mutual

theorem Piece.Like.content_crlf {p p' : Piece} (h : p.Like IsCrlf p')
    (hvalues : ∀ s ∈ p.values, '\n' ∉ s.toList) : p'.content = crlf p.content := by
  cases h with
  | text related => exact related
  | value depth escaped s => exact (crlf_eq_self (hvalues s List.mem_cons_self)).symm
  | @lines indent margin ps ps' pieces =>
    have hindent : '\n' ∉ indent.toList := by
      rw [← Text.crlf_eq_self_iff, ← toList_crlf]
      exact congrArg String.toList (Eq.symm margin)
    rw [Piece.content, Piece.content, pieces.contents_crlf hvalues, indentLines_crlf hindent]

/-- **The same pieces with the other line ends** make the text with the other line ends. -/
theorem PiecesLike.contents_crlf {ps ps' : List Piece} (h : PiecesLike IsCrlf ps ps')
    (hvalues : ∀ s ∈ valuesOf ps, '\n' ∉ s.toList) : contents ps' = crlf (contents ps) := by
  cases h with
  | nil => rfl
  | cons first others =>
    rw [valuesOf, List.forall_mem_append] at hvalues
    rw [contents, contents, first.content_crlf hvalues.1, others.contents_crlf hvalues.2,
      crlf_append]

end

/-- **An outline whose values are written without newlines**, escaped as they may be. -/
def Outline.WritesInline (escaping : Escaping) (o : Outline) (τ : Tally) : Prop :=
  ∀ ps qs τ', o = some ps → writeAll escaping ps τ = some (qs, τ') →
    ∀ s ∈ valuesOf qs, '\n' ∉ s.toList

/-- The text that the same outline makes with the other line ends. -/
theorem Outline.Like.composed_crlf {o o' : Outline} (h : o.Like IsCrlf o') {escaping : Escaping}
    {τ : Tally} (hvalues : o.WritesInline escaping τ) :
    o'.composed escaping τ = (o.composed escaping τ).map fun r => (crlf r.1, r.2) := by
  cases h with
  | none => rfl
  | @some ps ps' pieces =>
    have hwritten := pieces.writeAll escaping τ
    have hinline := hvalues ps
    show Mustache.composed escaping ps' τ = (Mustache.composed escaping ps τ).map _
    unfold Mustache.composed
    generalize writeAll escaping ps τ = r at hwritten hinline ⊢
    generalize writeAll escaping ps' τ = r' at hwritten ⊢
    cases hwritten with
    | none => rfl
    | @some r r' hr =>
      obtain ⟨qs, τ₁⟩ := r
      obtain ⟨qs', τ₁'⟩ := r'
      obtain ⟨hqs, rfl⟩ := hr
      simp only [Option.map_some, hqs.contents_crlf (hinline qs _ rfl rfl)]

/-! ## Templates -/

section

variable {sc sc' : Scope} {c c' : Engine} {cached cached' : Prop}
  {includes : String → Option String} {source : String} {data : Value} {locals : Entries}

/-- What the source with the other line ends makes of data, under another engine with the same
helpers. -/
theorem Engine.outline_crlf (hhelpers : c'.helpers = c.helpers)
    (hincludes : ∀ name p, includes name = some p → Convertible p) (h : Convertible source) :
    (c.outline includes source data locals).Like IsCrlf
      (c'.outline (fun name => (includes name).map crlf) (crlf source) data locals) := by
  have hframes : framesFor (some c') data locals = framesFor (some c) data locals := by
    unfold framesFor
    dsimp only
    rw [hhelpers]
  unfold Engine.outline
  rw [hframes]
  exact outlineSource_crlf hincludes _ h _

/-- **Line ends are handled uniformly.** Let a source and all sources that may be included have no
carriage returns, and no newlines within their tags but for comments and delimiter changes. Then the
source has a tree exactly if it has one with the other line ends. And let two engines escape alike,
have the same helpers, and include these sources, one as they are and the other one with the other
line ends. Then for all data without callables of which the values are written without newlines, one
renders the source exactly if the other one renders it with the other line ends, and to the same
text but for the line ends; unless a cache cannot be written.

**Proof sketch.** The sources have the same tags, and texts with the other line ends
(`Scanned.crlf`); so have their outlines (`outlineSource_crlf`). The values are the same, and as
they have no newlines, the texts that are made have the other line ends
(`Outline.Like.composed_crlf`). -/
theorem render_crlf (hescaping : c'.escaping = c.escaping) (hhelpers : c'.helpers = c.helpers)
    (hpartials : c.Includes sc includes)
    (hpartials' : c'.Includes sc' fun name => (includes name).map crlf)
    (hincludes : ∀ name p, includes name = some p → Convertible p) (h : Convertible source)
    (hfree : c.CallableFree data locals) :
    ((∃ tree, parse source .null .usual = .ok tree) ↔
      ∃ tree, parse (crlf source) .null .usual = .ok tree) ∧
    ∀ (t t' : Template) (s s' : Session), t.IsOf c source → t'.IsOf c' (crlf source) →
      s.store.IsSound sc c cached → s'.store.IsSound sc' c' cached' → s'.tally = s.tally →
      (c.outline includes source data locals).WritesInline c.escaping s.tally →
        (∀ out s₁, t.render data locals s = .ok out s₁ →
          (∃ s₁', t'.render data locals s' = .ok (crlf out) s₁') ∨
            cached' ∧ ∃ e s₁', t'.render data locals s' = .error e s₁' ∧ e.IsUnwritten) ∧
        ∀ out' s₁', t'.render data locals s' = .ok out' s₁' →
          (∃ out s₁, t.render data locals s = .ok out s₁ ∧ out' = crlf out) ∨
            cached ∧ ∃ e s₁, t.render data locals s = .error e s₁ ∧ e.IsUnwritten := by
  refine ⟨⟨?_, ?_⟩, fun t t' s s' ht ht' hs hs' htally hvalues => ?_⟩
  · rintro ⟨tree, htree⟩
    obtain ⟨tree', htree', -⟩ := h.parse_crlf htree
    exact ⟨tree', htree'⟩
  · rintro ⟨tree', htree'⟩
    exact h.exists_parse_of_crlf htree'
  have hfree' : c'.CallableFree data locals := ⟨hhelpers ▸ hfree.helpers, hfree.data, hfree.locals⟩
  have hcomposed :=
    (Engine.outline_crlf hhelpers hincludes h).composed_crlf hvalues
  refine ⟨fun out s₁ hrun => ?_, fun out' s₁' hrun => ?_⟩
  · have hout := Template.outline_of_render_eq_ok hpartials hfree ht hs hrun
    refine Template.render_eq_ok_of_outline hpartials' hfree' ht' hs' (τ := s₁.tally) ?_
    rw [hescaping, htally, hcomposed, hout]
    rfl
  · have hout := Template.outline_of_render_eq_ok hpartials' hfree' ht' hs' hrun
    rw [hescaping, htally, hcomposed, Option.map_eq_some_iff] at hout
    obtain ⟨⟨out, τ⟩, hout, heq⟩ := hout
    obtain ⟨rfl, -⟩ := Prod.mk.inj heq
    rcases Template.render_eq_ok_of_outline hpartials hfree ht hs hout with ⟨s₁, hrun'⟩ | hunwritten
    · exact .inl ⟨out, s₁, hrun', rfl⟩
    · exact .inr hunwritten

end

/-- A source of which the tokens are known. -/
theorem convertible_of_tokenize {source : String} {tokens : List Token}
    (htokens : tokenize source .null .usual = .ok tokens) (noReturn : '\r' ∉ source.toList)
    (h : ∀ t ∈ tokens, t.kind ≠ .text → t.kind ≠ .comment → t.kind ≠ .delimiterChange →
      '\n' ∉ t.value.toList) : Convertible source where
  noReturn
  tags tokens' htokens' := by
    rwa [Except.ok.inj (htokens'.symm.trans htokens)]

/-- An indented inclusion of two lines. -/
theorem render_crlf_indented : ∃ t t' : Template,
    t.source = "  \x7b\x7b>p\x7d\x7d\nb\n" ∧ t'.source = "  \x7b\x7b>p\x7d\x7d\r\nb\r\n" ∧
      (∃ s', t.render .null [(.text "a", .text "1")]
        (.unused (.tabled "p" "x\n\x7b\x7ba\x7d\x7d\n")) = .ok "  x\n  1\nb\n" s') ∧
        ∃ s', t'.render .null [(.text "a", .text "1")]
          (.unused (.tabled "p" "x\r\n\x7b\x7ba\x7d\x7d\r\n")) =
            .ok "  x\r\n  1\r\nb\r\n" s' := by
  let c : Engine := .tabled "p" "x\n\x7b\x7ba\x7d\x7d\n"
  let c' : Engine := .tabled "p" (crlf "x\n\x7b\x7ba\x7d\x7d\n")
  let t : Template := .made c "  \x7b\x7b>p\x7d\x7d\nb\n"
  let t' : Template := .made c' (crlf "  \x7b\x7b>p\x7d\x7d\nb\n")
  have hsource : Convertible "  \x7b\x7b>p\x7d\x7d\nb\n" := by
    have htokens : tokenize "  \x7b\x7b>p\x7d\x7d\nb\n" .null .usual =
        .ok [⟨.inclusion, "p", ⟨1, 2⟩, 2, 8, .usual, "  "⟩,
          ⟨.text, "b\n", ⟨2, 0⟩, 9, 11, .usual, ""⟩] :=
      eq_ok_of_toOption_eq_some (by decide +kernel)
    exact convertible_of_tokenize htokens (by decide) (by decide +kernel)
  have hpartial : Convertible "x\n\x7b\x7ba\x7d\x7d\n" := by
    have htokens : tokenize "x\n\x7b\x7ba\x7d\x7d\n" .null .usual =
        .ok [⟨.text, "x\n", ⟨1, 0⟩, 0, 2, .usual, ""⟩,
          ⟨.interpolation, "a", ⟨2, 0⟩, 2, 7, .usual, ""⟩,
          ⟨.text, "\n", ⟨2, 5⟩, 7, 8, .usual, ""⟩] :=
      eq_ok_of_toOption_eq_some (by decide +kernel)
    exact convertible_of_tokenize htokens (by decide) (by decide +kernel)
  let includes : String → Option String := ([("p", "x\n\x7b\x7ba\x7d\x7d\n")].lookup ·)
  have hpartials : c.Includes (.lone "x\n\x7b\x7ba\x7d\x7d\n") includes :=
    Engine.includes_tabled _ _
  have hincludes (name p : String) (hname : includes name = some p) : Convertible p := by
    rw [hpartials.known name p hname]
    exact hpartial
  have hlookup : (fun name => (includes name).map crlf) =
      ([("p", crlf "x\n\x7b\x7ba\x7d\x7d\n")].lookup ·) := by
    funext name
    show Option.map crlf (List.lookup name _) = _
    rw [List.lookup_cons, List.lookup_cons]
    split <;> rfl
  have hpartials' : c'.Includes (.lone (crlf "x\n\x7b\x7ba\x7d\x7d\n"))
      fun name => (includes name).map crlf := by
    rw [hlookup]
    exact Engine.includes_tabled _ _
  have hrun : ∃ s', t.render .null [(.text "a", .text "1")] (.unused c) =
      .ok "  x\n  1\nb\n" s' :=
    Template.exists_render_eq_ok (by decide +kernel)
  have hfree : c.CallableFree .null [(.text "a", .text "1")] :=
    ⟨by decide, by decide, by decide⟩
  have hvalues : (c.outline includes "  \x7b\x7b>p\x7d\x7d\nb\n" .null
      [(.text "a", .text "1")]).WritesInline c.escaping (Session.unused c).tally := by
    have hone : ((c.outline includes "  \x7b\x7b>p\x7d\x7d\nb\n" .null
        [(.text "a", .text "1")]).bind fun ps =>
          writeAll c.escaping ps (Session.unused c).tally).map (fun r => valuesOf r.1) =
            some ["1"] := by
      decide +kernel
    intro ps qs τ' hps hqs
    rw [hps, Option.bind_some, hqs, Option.map_some, Option.some.injEq] at hone
    rw [hone]
    decide
  obtain ⟨s', hrun⟩ := hrun
  have hescaping : c'.escaping = c.escaping := rfl
  have hhelpers : c'.helpers = c.helpers := rfl
  obtain ⟨-, hrender⟩ :=
    render_crlf hescaping hhelpers hpartials hpartials' hincludes hsource hfree
  obtain ⟨hthere, -⟩ := hrender t t' (.unused c) (.unused c')
    (Template.isOf_made c (by decide +kernel)) (Template.isOf_made c' (by decide +kernel))
    (Session.isSound_unused _ _) (Session.isSound_unused _ _) rfl hvalues
  refine ⟨t, t', rfl, by decide +kernel, ⟨s', hrun⟩, ?_⟩
  exact (hthere _ _ hrun).resolve_right fun h => h.1

/-- A callable that writes a newline for a bar. -/
def unbar : Callable where
  id := 0
  signature := .parameters [⟨"a", .positional, false⟩]
  body := .replace (.arg 0) "|" "\n"
  traced := false

/-- An engine that escapes by this callable. -/
def Engine.unbarring : Engine := { (tabled "" "") with escape := some (.function unbar) }

/-- A value without newlines may be written with one, which then is the only newline that stays as
it is. -/
theorem exists_escaped_apart : ∃ t t' : Template, Convertible "a\n\x7b\x7bx\x7d\x7d" ∧
    Engine.unbarring.CallableFree (.dict [(.text "x", .text "|")]) [] ∧
      t.IsOf .unbarring "a\n\x7b\x7bx\x7d\x7d" ∧
        t'.IsOf .unbarring (crlf "a\n\x7b\x7bx\x7d\x7d") ∧
          (Engine.unbarring.outline (fun _ => none) "a\n\x7b\x7bx\x7d\x7d"
            (.dict [(.text "x", .text "|")]) []).map valuesOf = some ["|"] ∧
              (∃ s', t.render (.dict [(.text "x", .text "|")]) [] (.unused .unbarring) =
                .ok "a\n\n" s') ∧
                (∃ s', t'.render (.dict [(.text "x", .text "|")]) [] (.unused .unbarring) =
                  .ok "a\r\n\n" s') ∧ crlf "a\n\n" ≠ "a\r\n\n" := by
  have htokens : tokenize "a\n\x7b\x7bx\x7d\x7d" .null .usual =
      .ok [⟨.text, "a\n", ⟨1, 0⟩, 0, 2, .usual, ""⟩,
        ⟨.interpolation, "x", ⟨2, 0⟩, 2, 7, .usual, ""⟩] :=
    eq_ok_of_toOption_eq_some (by decide +kernel)
  exact ⟨.made .unbarring "a\n\x7b\x7bx\x7d\x7d",
    .made .unbarring (crlf "a\n\x7b\x7bx\x7d\x7d"),
    convertible_of_tokenize htokens (by decide) (by decide +kernel),
    ⟨by decide, by decide, by decide⟩, Template.isOf_made _ (by decide +kernel),
    Template.isOf_made _ (by decide +kernel), by decide +kernel,
    Template.exists_render_eq_ok (by decide +kernel),
    Template.exists_render_eq_ok (by decide +kernel), by decide +kernel⟩

end Mustache
