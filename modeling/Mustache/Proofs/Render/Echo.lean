import Mustache.Proofs.Render.RawBody
import Mustache.Proofs.Render.TextsApart
import Mustache.Proofs.Token.Flush

/-!
# Lambdas that answer their text unchanged

A section whose name stands for a lambda that answers its text unchanged is rendered by loading the
text between its tags and rendering what has been loaded. This module shows that it comes to the
same as rendering the nodes of the section in place, if the text between the tags is not cut at the
lines of the tags.

## Main definitions

* `Mustache.Section.IsFlush` — a section with texts at its tags, from which nothing is cut.
* `Mustache.Section.Echoed` — the name of a section stands for a lambda that answers its text.

## Main results

* `Mustache.exists_parse_rawBody_flush` — the nodes of the text between the tags are those of the
  section.
* `Mustache.renderNode_of_echoed` — an echoed section is rendered as its nodes are.
-/

namespace Mustache

/-! ## The first and the last token -/

/-- The token of a text. -/
theorem Reading.leaf?_eq_text {r : Reading} {place : Place} {value : String}
    (h : r.leaf? = some (.text place value)) : r.token.kind = .text ∧ r.token.value = value := by
  cases leaf?_eq_some_iff.1 h with
  | text hk => exact ⟨hk, rfl⟩

/-- If the first node is a text, so is the first token. -/
theorem Reads.head?_of_text {filtered : Bool} {ts : List Token} {ns : List Node}
    (h : Reads filtered ts ns) {place : Place} {value : String}
    (hfirst : ns.head? = some (.text place value)) :
    ∃ t, ts.head? = some t ∧ t.kind = .text ∧ t.value = value := by
  cases h with
  | nil => simp at hfirst
  | leaf node _ =>
    obtain rfl := Option.some.inj hfirst
    exact ⟨_, rfl, Reading.leaf?_eq_text node⟩
  | block => simp at hfirst

/-- If the last node is a text, so is the last token. -/
theorem Reads.getLast?_of_text {filtered : Bool} {ts : List Token} {ns : List Node}
    (h : Reads filtered ts ns) {place : Place} {value : String}
    (hlast : ns.getLast? = some (.text place value)) :
    ∃ t, ts.getLast? = some t ∧ t.kind = .text ∧ t.value = value := by
  induction h with
  | nil => simp at hlast
  | @leaf filtered t n ts ns node after ih =>
    rw [List.getLast?_cons] at hlast ⊢
    cases hns : ns.getLast? with
    | some m =>
      rw [hns, Option.getD_some] at hlast
      obtain ⟨u, hu, hrest⟩ := ih (hns.trans hlast)
      exact ⟨u, by rw [hu, Option.getD_some], hrest⟩
    | none =>
      rw [hns, Option.getD_none] at hlast
      obtain rfl := Option.some.inj hlast
      rw [List.getLast?_eq_none_iff] at hns
      subst hns
      cases after
      exact ⟨t, rfl, Reading.leaf?_eq_text node⟩
  | @block filtered opener closer name filters others inner rest body ns _ _ _ _ _ _ _ ih =>
    rw [List.getLast?_cons] at hlast
    cases hns : ns.getLast? with
    | some m =>
      rw [hns, Option.getD_some] at hlast
      obtain ⟨u, hu, hrest⟩ := ih (hns.trans hlast)
      refine ⟨u, ?_, hrest⟩
      have hbehind : (closer :: rest).getLast? = some u := by rw [List.getLast?_cons, hu]; rfl
      rw [← List.cons_append]
      exact getLast?_append_of_eq_some hbehind _
    | none =>
      rw [hns, Option.getD_none] at hlast
      simp at hlast

/-! ## Sections that are flush with their tags -/

/-- **A section that is flush with its tags**: its nodes begin and end with texts, of which the
first one begins right behind the opening tag, and which do not begin or end with a blank. -/
structure Section.IsFlush (head : Section) (body : List Node) (source : String) : Prop where
  first : ∃ place text c, body.head? = some (.text place text) ∧ text.toList.head? = some c ∧
    Text.isBlank c = false ∧ text.toList <+: (head.rawBody source).toList
  last : ∃ place text c, body.getLast? = some (.text place text) ∧ text.toList.getLast? = some c ∧
    Text.isBlank c = false

/-- **The nodes of the text between the tags** of a section, read under the delimiters of the
section, are those of the section: they differ in places only. -/
theorem exists_parse_rawBody_flush {source : String} {name : Value} {tokens : List Token}
    {tree : Tree} {head : Section} {body : List Node}
    (htokens : tokenize source name .usual = .ok tokens)
    (htree : parseTokens tokens name (some source) = .ok tree)
    (hblock : HasBlock head body tree.body)
    (hpragma : ∀ t ∈ tokens, t.IsFiltersPragma → head.start ≤ t.start)
    (hflush : head.IsFlush body source) (name' : Value) :
    head.delims.Written ∧ ∃ tree', parse (head.rawBody source) name' head.delims = .ok tree' ∧
      AllAlike source (head.rawBody source) body tree'.body := by
  have hrun := tokenize_eq_ok_iff.1 htokens
  have hreads := (exists_buildTree_iff hrun.hasWords).1 ⟨tree, parseTokens_eq_ok_iff.1 htree, rfl⟩
  obtain ⟨before, opener, inner, closer, after, label, filters, others, rfl, hopener, hcloser, -,
    -, rfl, hinner⟩ := hreads.exists_of_hasBlock hblock
  refine ⟨hrun.written Delimiters.written_usual opener (by simp), ?_⟩
  rw [filteredAfter_eq_false hrun Delimiters.isPlain_usual hpragma] at hinner
  -- The tokens at the ends are texts without a blank at the tags.
  obtain ⟨⟨place, text, c, hfirstNode, hc, hblank, rest, hrest⟩, place', text', c', hlastNode, hc',
    hblank'⟩ := hflush
  obtain ⟨first, hfirst, hfirstKind, rfl⟩ := hinner.head?_of_text hfirstNode
  obtain ⟨last, hlast, hlastKind, rfl⟩ := hinner.getLast?_of_text hlastNode
  have hraw : ((sectionOf opener closer label filters).rawBody source).toList =
      Text.slice source.toList opener.stop closer.start := by
    rw [Section.rawBody, sliceOf, String.toList_ofList]
    rfl
  obtain ⟨inner', hslice, hmoved⟩ := hrun.between_flush Delimiters.isPlain_usual rfl
    (by rcases hopener with hk | hk <;> simp [hk]) (by rcases hopener with hk | hk <;> simp [hk])
    (by simp [hcloser]) hfirst ⟨hfirstKind, c, hc, hblank⟩ hlast ⟨hlastKind, c', hc', hblank'⟩
    ⟨c, by rw [← hraw, ← hrest, List.head?_append, hc]; rfl, hblank⟩
  -- The text between the tags is a stretch of the source.
  have hordered := hrun.ordered rfl Delimiters.isPlain_usual
  have hle : opener.stop ≤ closer.start :=
    (List.pairwise_cons.1 (List.pairwise_append.1 hordered.2).2.1).1 closer (by simp)
  have hbound : closer.start ≤ source.toList.length := by
    obtain ⟨-, hfits⟩ := hordered.1 closer (by simp)
    exact Nat.le_of_lt (Nat.lt_of_lt_of_le hfits.start_lt_stop hfits.stop_le)
  generalize (sectionOf opener closer label filters).rawBody source = raw at hraw ⊢
  have hlength : raw.toList.length = closer.start - opener.stop := by
    rw [hraw, Text.length_slice hbound]
  have hfront : (String.ofList (source.toList.take opener.stop)).toList.length = opener.stop := by
    rw [String.toList_ofList, List.length_take, Nat.min_eq_left (hle.trans hbound)]
  have hsource : source = String.ofList (source.toList.take opener.stop) ++ raw ++
      String.ofList (source.toList.drop closer.start) := by
    rw [← String.toList_inj]
    simp only [String.toList_append, String.toList_ofList]
    rw [hraw, List.append_assoc, ← Text.drop_eq_slice_append _ hle, List.take_append_drop]
  rw [← hlength] at hmoved
  obtain ⟨ns, hns, halike⟩ : ∃ ns, Reads false inner' ns ∧
      AllAlike (String.ofList (source.toList.take opener.stop) ++ raw ++
        String.ofList (source.toList.drop closer.start)) ("" ++ raw ++ "") body ns :=
    hinner.moved (hfront.symm ▸ hmoved)
  rw [← hsource, String.empty_append, String.append_empty] at halike
  obtain ⟨tree', htree', rfl⟩ : ∃ tree', parse raw name' opener.delims = .ok tree' ∧
      tree'.body = ns :=
    exists_parse_iff.2 ⟨inner', tokenize_eq_ok_iff.2 (hraw ▸ hslice), hns⟩
  exact ⟨tree', htree', halike⟩

/-! ## Lambdas that answer their text -/

/-- **The name of a section stands for a lambda that answers its text unchanged**: it is looked up
in the first session, and the call leaves the second one behind. The helper that it is given is the
one object that is made for the call. -/
def Section.Echoed (head : Section) (source : String) (below : Below) (s s' : Session) : Prop :=
  ∃ f s₁, findName below head.name s = .ok f s₁ ∧ f.isLambda = true ∧
    f.callLambda below [.text (head.rawBody source),
      .helper s₁.nextId s₁.frames.length head.delims.changeTag?]
      { s₁ with nextId := s₁.nextId + 1 } = .ok (.text (head.rawBody source)) s'

/-- A section of which the text is answered is rendered to what its text renders to, loaded under
the delimiters of the section. -/
theorem renderSection_of_echoed {below : Below} (hbelow : below.Keeps) {t : Template}
    {head : Section} (hinverted : head.inverted = false) (hfilters : head.filters = [])
    {s s₁ s₂ s₃ : Session} (hechoed : head.Echoed t.source below s s₁) {e : Engine}
    (hengine : s₁.engine = some e) (hid : t.engine = e.id) {loaded : Template}
    (hload : loadText (head.rawBody t.source) head.delims.changeTag? s₁ = .ok loaded s₂)
    {out : String} (hrender : below.render loaded s₂ = .ok out s₃) (body : Action Output) :
    renderSection below t head body s = .ok (some out) s₃ := by
  obtain ⟨f, s', hfind, hlambda, hcall⟩ := hechoed
  have hkept : s'.Kept s₁ := by
    have hkeeps := Value.keeps_callLambda hbelow f [.text (head.rawBody t.source),
      .helper s'.nextId s'.frames.length head.delims.changeTag?]
      { s' with nextId := s'.nextId + 1 }
    rw [hcall] at hkeeps
    exact ⟨hkeeps.frames, hkeeps.engine, hkeeps.asked, hkeeps.counts⟩
  obtain ⟨e', hpresent⟩ := exists_engineOf_eq hkept hengine hid
  have hfound : findFiltered below ⟨head.name, head.filters, head.place, t.name, t.source⟩ s =
      .ok f s' := by
    rw [hfilters]
    exact bind_eq_ok_iff.2 ⟨f, s', hfind, rfl⟩
  exact renderSection_of_isLambda hinverted hlambda hfound hpresent hcall hload hrender body

/-- **A section of a lambda that answers its text is rendered as its nodes are.** Let the section be
flush with its tags, without filters, and not behind the pragma for them. Then it is rendered, and
to the same, whenever its nodes can be rendered in place, at the next level and in a session that is
apart from the one after the call in texts from lambdas only. What is left behind is apart in
nothing else, either.

**Proof sketch.** The text between the tags has the nodes of the section under the delimiters of
the section, hence it is loaded, and its nodes behind the line for the delimiters are alike. So they
are rendered as the nodes of the section are; and that the text is among those that the engine keeps
does not show in what is rendered. -/
theorem renderNode_of_echoed {t : Template} {name : Value} {tokens : List Token} {head : Section}
    {body : List Node} (htokens : tokenize t.source name .usual = .ok tokens)
    (htree : parseTokens tokens name (some t.source) = .ok t.tree)
    (hblock : HasBlock head body t.tree.body) (hinverted : head.inverted = false)
    (hfilters : head.filters = [])
    (hpragma : ∀ t ∈ tokens, t.IsFiltersPragma → head.start ≤ t.start)
    (hflush : head.IsFlush body t.source) {depth : Nat} {s s₁ : Session}
    (hechoed : head.Echoed t.source (level (depth + 1)) s s₁) {e : Engine}
    (hengine : s₁.engine = some e) (hid : t.engine = e.id) (hescaping : t.escaping = e.escaping)
    (hholds : e.HoldsAt (lambdaSource (head.rawBody t.source) head.delims.changeTag?))
    {known : String → Prop}
    (hknown : known (lambdaSource (head.rawBody t.source) head.delims.changeTag?))
    {s₀ s₀' : Session} (htwin : s₀.Twin (Store.TextsApart known) s₁) {out : String}
    (hbody : renderNodes (level depth) t body s₀ = .ok (some out) s₀')
    (hasked : ∀ x ∈ s₀'.asked, known x) :
    ∃ s', renderNode (level (depth + 1)) t (.block head body) s = .ok (some out) s' ∧
      s₀'.Twin (Store.TextsApart known) s' := by
  obtain ⟨hwritten, tree', htree', halike⟩ :=
    exists_parse_rawBody_flush htokens htree hblock hpragma hflush .null
  obtain ⟨tree'', ms, hparse, hnodes, halike'⟩ :=
    exists_parse_lambdaSource hwritten htree' .null
  -- The text is loaded, and the engine may keep it.
  obtain ⟨e₀, e', he₀, he', hapart⟩ := htwin.store.engine
  obtain rfl : e' = e := Option.some.inj (he'.symm.trans hengine)
  have hserves : e'.logger.Serves s₁.levels := by
    have hlevels : s₁.levels = s₀.levels := htwin.store.levels
    rw [hlevels, Engine.eq_of_settings Engine.logger (fun _ => rfl) hapart.settings]
    exact hapart.serves
  obtain ⟨loaded, lambdas, records, nextTemplate, hload, hloaded, hlambdas⟩ :=
    loadText_of_parse hengine hholds hserves hparse
  have htwin' := hapart.keep hknown (hloaded.of_settings hapart.settings.symm) hloaded
    (fun _ hentry => .inl hentry) hlambdas
  -- The nodes of the section are rendered behind the call as they are in place.
  have hagrees := agrees_renderNodes (faithful_textsApart known)
    ((faithful_textsApart known).agrees_level depth) (.refl t) body
  have hsame := hagrees.outcome s₀ { s₁ with
      engine := some { e' with lambdas }, records, nextTemplate,
      asked := lambdaSource (head.rawBody t.source) head.delims.changeTag? :: s₁.asked }
    ⟨htwin.frames, htwin.tallies, htwin.nextId, htwin.store.files, htwin.store.levels,
      e₀, _, he₀, rfl, htwin'⟩
    (by rw [hbody]; exact hasked)
  rw [hbody] at hsame
  generalize hrun : renderNodes (level depth) t body _ = result at hsame
  cases hsame with
  | @ok _ _ _ s' answers sessions =>
    subst answers
    refine ⟨s', ?_, sessions⟩
    -- So are the nodes of the text, which are alike.
    have htext := (renderNodes_refines (level depth)
      (show t.Sibling { t with source := head.rawBody t.source } from ⟨rfl, rfl⟩) halike).ok
        _ _ _ hrun
    have hrest : AllAlike (head.rawBody t.source) loaded.source tree'.body ms := by
      rw [hloaded.source]
      exact halike'
    have hbehind := (renderNodes_refines (level depth)
      (show Template.Sibling { t with source := head.rawBody t.source } loaded from
        ⟨hloaded.engine.trans hid.symm, hloaded.escaping.trans hescaping.symm⟩) hrest).ok
        _ _ _ htext
    refine renderSection_of_echoed (keeps_level _) hinverted hfilters hechoed hengine hid hload
      (renderBody_eq_ok_iff.2 ?_) _
    rw [Except.ok.inj (hloaded.tree.symm.trans hparse), hnodes, renderNodes_leadNodes_append]
    exact hbehind

/-! ## A lambda that answers its text -/

/-- A lambda that answers its text. -/
def Value.echo : Value := .function ⟨1, .parameters [⟨"text", .positional, false⟩], .arg 0, false⟩

/-- A session in which a name stands for the lambda that answers its text. -/
def Session.echoing : Session :=
  { (default : Session) with
    engine := some .unused
    frames := [.dict [(.text "a", .echo)]] }

/-- The session behind the call. -/
def Session.echoed : Session := { Session.echoing with nextId := Session.echoing.nextId + 1 }

/-- The section of the name is echoed, and nothing but the helper is made. -/
theorem Section.echoed_echoing {head : Section} (hname : head.name = "a") (source : String)
    (below : Below) : head.Echoed source below .echoing .echoed := by
  have hfind : findName below head.name .echoing = .ok .echo .echoing := by
    rw [hname]
    unfold findName
    rw [if_neg (by decide)]
    rfl
  exact ⟨.echo, .echoing, hfind, rfl, rfl⟩

/-- An engine that keeps nothing is apart from itself in nothing. -/
theorem Session.twin_echoed (source : String) :
    Session.echoed.Twin (Store.TextsApart (· = source)) .echoed := by
  have hapart : Engine.unused.TextsApart (· = source) (default : Session).levels .unused :=
    { settings := rfl
      cache := rfl
      templates := .nil
      texts := fun _ _ _ ht => absurd ht List.not_mem_nil
      texts' := fun _ _ _ ht => absurd ht List.not_mem_nil
      distinct := fun x y hx hy _ => Eq.trans hx (Eq.symm hy)
      serves := Logger.serves_of_adapters_eq_nil rfl _ }
  exact ⟨rfl, rfl, rfl, rfl, rfl, .unused, .unused, rfl, rfl, hapart⟩

/-- The section of a word. -/
def echoedSource : String := "\x7b\x7b#a\x7d\x7dfoo\x7b\x7b/a\x7d\x7d"

/-- It is rendered to the word. -/
theorem renderNode_of_echoed_word : ∃ t head body s', t.source = echoedSource ∧
    parse echoedSource .null .usual = .ok t.tree ∧ t.tree.body = [.block head body] ∧
      renderNodes (level 0) t body .echoing = .ok (some "foo") .echoing ∧
        renderNode (level 1) t (.block head body) .echoing = .ok (some "foo") s' := by
  let opener : Token := ⟨.sectionStart, "a", ⟨1, 0⟩, 0, 6, .usual, ""⟩
  let inner : Token := ⟨.text, "foo", ⟨1, 6⟩, 6, 9, .usual, ""⟩
  let closer : Token := ⟨.sectionEnd, "a", ⟨1, 9⟩, 9, 15, .usual, ""⟩
  have htokens : tokenize echoedSource .null .usual = .ok [opener, inner, closer] :=
    eq_ok_of_toOption_eq_some (by decide +kernel)
  have hreads : Reads false (opener :: ([inner] ++ closer :: [])) _ :=
    .block (.inl rfl) (by rfl) rfl rfl (.leaf rfl .nil) .nil
  obtain ⟨tree, hparse, hbody⟩ := exists_parse_iff.2 ⟨_, htokens, hreads⟩
  obtain ⟨tokens, htokens', htree⟩ := parse_eq_ok_iff.1 hparse
  obtain rfl := Except.ok.inj (htokens.symm.trans htokens')
  have hraw : (sectionOf opener closer "a" []).rawBody echoedSource = "foo" := by decide +kernel
  have hflush : (sectionOf opener closer "a" []).IsFlush [.text ⟨1, 6⟩ "foo"] echoedSource :=
    ⟨⟨_, _, 'f', rfl, rfl, rfl, by rw [hraw]⟩, ⟨_, _, 'o', rfl, rfl, rfl⟩⟩
  let t : Template := ⟨0, 0, .null, "", echoedSource, tree, Engine.unused.escaping⟩
  have hechoed : (sectionOf opener closer "a" []).Echoed echoedSource (level 1) .echoing .echoed :=
    Section.echoed_echoing rfl _ _
  have hrendered : renderNodes (level 0) t [.text ⟨1, 6⟩ "foo"] .echoed =
    .ok (some "foo") .echoed := rfl
  obtain ⟨s', hrun, -⟩ := renderNode_of_echoed (t := t) htokens htree (hbody ▸ .here) rfl rfl
    (by decide) hflush hechoed (e := .unused) rfl rfl rfl (Engine.holdsAt_forget .unused _)
    (by exact hraw) (Session.twin_echoed "foo") hrendered
    (fun _ hx => absurd hx List.not_mem_nil)
  exact ⟨t, _, _, s', rfl, hparse, hbody, rfl, hrun⟩

/-- The section of a word, with its opening tag alone on a line. -/
def standingSource : String := "\x7b\x7b#a\x7d\x7d\nfoo\x7b\x7b/a\x7d\x7d"

/-- The line break behind an opening tag that stands alone on its line is not among the nodes of the
section, but it is part of the text that the lambda answers. -/
theorem exists_echoed_apart : ∃ t head body s', t.source = standingSource ∧
    parse standingSource .null .usual = .ok t.tree ∧ t.tree.body = [.block head body] ∧
      head.inverted = false ∧ head.filters = [] ∧ body = [.text ⟨2, 0⟩ "foo"] ∧
        head.Echoed standingSource (level 1) .echoing .echoed ∧
          renderNodes (level 1) t body .echoing = .ok (some "foo") .echoing ∧
            renderNode (level 1) t (.block head body) .echoing = .ok (some "\nfoo") s' := by
  let opener : Token := ⟨.sectionStart, "a", ⟨1, 0⟩, 0, 6, .usual, ""⟩
  let inner : Token := ⟨.text, "foo", ⟨2, 0⟩, 7, 10, .usual, ""⟩
  let closer : Token := ⟨.sectionEnd, "a", ⟨2, 3⟩, 10, 16, .usual, ""⟩
  have htokens : tokenize standingSource .null .usual = .ok [opener, inner, closer] :=
    eq_ok_of_toOption_eq_some (by decide +kernel)
  have hreads : Reads false (opener :: ([inner] ++ closer :: [])) _ :=
    .block (.inl rfl) (by rfl) rfl rfl (.leaf rfl .nil) .nil
  obtain ⟨tree, hparse, hbody⟩ := exists_parse_iff.2 ⟨_, htokens, hreads⟩
  have hraw : (sectionOf opener closer "a" []).rawBody standingSource = "\nfoo" := by
    decide +kernel
  let t : Template := ⟨0, 0, .null, "", standingSource, tree, Engine.unused.escaping⟩
  -- The text between the tags begins with the line break.
  have htext : tokenize "\nfoo" .null .usual =
      .ok [⟨.text, "\nfoo", ⟨1, 0⟩, 0, 4, .usual, ""⟩] :=
    eq_ok_of_toOption_eq_some (by decide +kernel)
  obtain ⟨tree', hparse', hbody'⟩ := exists_parse_iff.2 ⟨_, htext, .leaf rfl .nil⟩
  have hsource : parse (lambdaSource "\nfoo" none) .null .usual = .ok tree' := hparse'
  obtain ⟨loaded, lambdas, records, nextTemplate, hload, hloaded, -⟩ :=
    loadText_of_parse (s := .echoed) (e := .unused) rfl (Engine.holdsAt_forget .unused _)
      (Logger.serves_of_adapters_eq_nil rfl _) hsource
  have hechoed : (sectionOf opener closer "a" []).Echoed standingSource (level 1) .echoing
      .echoed := Section.echoed_echoing rfl _ _
  have hrun : renderSection (level 1) t (sectionOf opener closer "a" [])
      (renderNodes (level 1) t [.text ⟨2, 0⟩ "foo"]) .echoing = .ok (some "\nfoo") _ :=
    renderSection_of_echoed (keeps_level 1) (t := t) rfl rfl hechoed rfl rfl (hraw ▸ hload)
      (renderBody_eq_ok_iff.2 (by
        rw [Except.ok.inj (hloaded.tree.symm.trans hparse'), hbody']
        rfl)) _
  exact ⟨t, _, _, _, rfl, hparse, hbody, rfl, rfl, rfl, hechoed, rfl, hrun⟩

end Mustache
