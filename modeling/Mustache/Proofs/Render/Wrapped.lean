import Mustache.Proofs.Cache.Loaders
import Mustache.Proofs.Cache.Operation
import Mustache.Proofs.Cache.Provided
import Mustache.Proofs.Render.LambdaText
import Mustache.Proofs.Render.TextsApart

/-!
# Lambdas that put text around what theirs renders to

A lambda may have the text between the tags of its section rendered, and answer the outcome with
some text in front of it and some behind it. What it answers is loaded and rendered once more,
behind the line that brings the delimiters of the section into effect. This module shows that the
second time makes no difference, if no tag opens in the answer: a text without tags is rendered to
itself, to the last blank, and neither the line in front of it nor what the engine keeps shows.

## Main definitions

* `Mustache.Session.KeepsTexts` — a session of which the engine keeps templates of their sources.
* `Mustache.Value.Wraps` — a lambda that renders its text and puts text around the outcome.

## Main results

* `Mustache.parse_of_no_tag` — a text in which no tag opens is one text.
* `Mustache.Template.IsOf.renderBody_eq_ok_iff` — the template of a text from a lambda renders to
  what the text renders to under the delimiters of the section.
* `Mustache.renderSection_of_wraps_of_keepsTexts`, `Mustache.renderNode_of_wraps` — a section of
  such a lambda.
-/

namespace Mustache

/-! ## Texts in which no tag opens -/

section

variable {d : Delimiters} {text : String} (h : ¬ d.opening.toList <:+: text.toList)

include h

/-- **A text in which no tag opens** is parsed as one text, or as nothing if it is empty. -/
theorem parse_of_no_tag (name : Value) :
    parse text name d = .ok ⟨textNodes Position.start.place text.toList, []⟩ := by
  have hnone : Text.cut? d.opening.toList text.toList = none :=
    Text.cut?_eq_none_iff.2 fun i hi => h (hi.isInfix.trans (List.drop_suffix i _).isInfix)
  exact parse_eq_ok_iff.2 ⟨_, tokenize_eq_ok_iff.2 (.last hnone), parseTokens_textToken d _ _ _⟩

end

/-! ## Templates of texts from lambdas -/

section

variable {d : Delimiters} (hd : d.Written) {t : Template} {e : Engine} {text : String}
  (ht : t.IsOf e (lambdaSource text d.changeTag?))

include hd ht

/-- **The template of a text from a lambda** renders to what the text renders to that is read under
the delimiters of the caller. -/
theorem Template.IsOf.renderBody_eq_ok_iff {u : Template} {name : Value}
    (hparse : parse text name d = .ok u.tree) (hsource : u.source = text) (hsibling : t.Sibling u)
    (below : Below) {s s' : Session} {out : String} :
    renderBody below t s = .ok out s' ↔ renderBody below u s = .ok out s' := by
  obtain ⟨tree, ms, htree, hbody, halike⟩ := exists_parse_lambdaSource hd hparse .null
  obtain rfl : t.tree = tree := Except.ok.inj (ht.tree.symm.trans htree)
  have hsymm := halike.symm
  rw [← ht.source, ← hsource] at hsymm
  rw [Mustache.renderBody_eq_ok_iff, Mustache.renderBody_eq_ok_iff, hbody,
    renderNodes_leadNodes_append]
  exact renderNodes_eq_ok_iff_of_alike below hsibling hsymm

/-- **The template of a text in which no tag opens renders to the text**, whatever blanks and lines
it begins or ends with. -/
theorem Template.IsOf.renderBody_of_no_tag (hplain : ¬ d.opening.toList <:+: text.toList)
    (below : Below) (s : Session) : renderBody below t s = .ok text s := by
  let u : Template :=
    { t with source := text, tree := ⟨textNodes Position.start.place text.toList, []⟩ }
  refine (ht.renderBody_eq_ok_iff hd (u := u) (parse_of_no_tag hplain .null) rfl ⟨rfl, rfl⟩
    below).2 (Mustache.renderBody_eq_ok_iff.2 ?_)
  show renderNodes below u (textNodes _ text.toList) s = _
  rw [renderNodes_textNodes, String.ofList_toList]

end

/-- A twin of a template of a source is a template of this source. -/
theorem Template.IsOf.of_twin {t t' : Template} {e : Engine} {source : String} (h : t.IsOf e source)
    (htwin : t.Twin t') : t'.IsOf e source where
  engine := htwin.engine.trans h.engine
  source := htwin.source.trans h.source
  tree := htwin.tree.symm ▸ h.tree
  escaping := htwin.escaping.trans h.escaping
  name := by
    rcases htwin.name with hsame | ⟨-, hname⟩
    · exact hsame ▸ h.name
    · exact hname

/-! ## Engines that keep texts -/

/-- **What an engine keeps of the known sources** is made of them, and their keys tell them apart.
Where the templates come from does not matter. -/
structure Engine.KeepsTexts (known : String → Prop) (e : Engine) : Prop where
  holds : ∀ x, known x → e.HoldsAt x
  distinct : ∀ x y, known x → known y → e.className x = e.className y → x = y

/-- A session with such an engine of a given configuration. -/
structure Session.KeepsTexts (known : String → Prop) (c : Engine) (s : Session) : Prop where
  engine : ∃ e, s.engine = some e ∧ e.settings = c.settings ∧ e.KeepsTexts known ∧
    e.logger.Serves s.levels

theorem Store.IsSound.keepsTexts {sc : Scope} {c : Engine} {cached : Prop} {s : Session}
    (h : s.store.IsSound sc c cached) : s.KeepsTexts sc.known c := by
  obtain ⟨e, he, hconfig, hsound, -⟩ := h.engine
  have hlevels : s.levels = sc.levels := h.levels
  exact ⟨e, he, hconfig, ⟨hsound.holds, fun _ _ => hsound.eq_of_className_eq⟩,
    hlevels ▸ hsound.serves⟩

section

variable {known : String → Prop} {c : Engine} {s : Session} (hs : s.KeepsTexts known c)

include hs

/-- The session is apart from itself in nothing. -/
theorem Session.KeepsTexts.twin : s.Twin (Store.TextsApart known) s := by
  obtain ⟨e, he, -, hkeeps, hserves⟩ := hs.engine
  have hapart : e.TextsApart known s.levels e :=
    { settings := rfl
      cache := rfl
      templates := List.forall₂_same.2 fun entry _ => ⟨rfl, .refl entry.2⟩
      texts := fun x hx => (hkeeps.holds x hx).holdsText
      texts' := fun x hx => (hkeeps.holds x hx).holdsText
      distinct := hkeeps.distinct
      serves := hserves }
  exact ⟨rfl, rfl, rfl, rfl, rfl, e, e, he, he, hapart⟩

/-- **A text that can be parsed is loaded** in a session that differs from this one in the texts
that are kept. That it may be kept itself does not show. -/
theorem Session.KeepsTexts.exists_loadText {s' : Session}
    (htwin : s.Twin (Store.TextsApart known) s') {text : String} {delims : Option String}
    (hknown : known (lambdaSource text delims)) {tree : Tree}
    (hparse : parse (lambdaSource text delims) .null .usual = .ok tree) :
    ∃ t s'', loadText text delims s' = .ok t s'' ∧ t.IsOf c (lambdaSource text delims) ∧
      s.Twin (Store.TextsApart known) s'' := by
  obtain ⟨e, he, hconfig, hkeeps, -⟩ := hs.engine
  obtain ⟨e₀, e', he₀, he', hapart⟩ := htwin.store.engine
  obtain rfl : e₀ = e := Option.some.inj (he₀.symm.trans he)
  have hlookup := rel_lookup_of_forall₂ hapart.templates (e₀.className (lambdaSource text delims))
  generalize hfound : e₀.templates.lookup (e₀.className (lambdaSource text delims)) = found
    at hlookup
  generalize hfound' : e'.templates.lookup (e₀.className (lambdaSource text delims)) = found'
    at hlookup
  rw [← Engine.className_of_settings hapart.settings] at hfound'
  cases hlookup with
  | some ht =>
    have hof := hkeeps.holds _ hknown _ (List.mem_append_left _ (mem_of_lookup_eq_some hfound))
    exact ⟨_, _, loadText_of_lookup_eq_some he' hfound',
      (hof.of_twin ht).of_settings hconfig.symm, htwin.frames, htwin.tallies, htwin.nextId,
      htwin.store⟩
  | none =>
    have hserves : e'.logger.Serves s'.levels := by
      have hlevels : s'.levels = s.levels := htwin.store.levels
      rw [hlevels, Engine.eq_of_settings Engine.logger (fun _ => rfl) hapart.settings]
      exact hapart.serves
    obtain ⟨t, lambdas, records, nextTemplate, hload, ht, hlambdas⟩ :=
      loadText_of_parse_of_lookup he' hfound' (hapart.texts' _ hknown) hserves hparse
    have ht₀ := ht.of_settings hapart.settings.symm
    exact ⟨t, _, hload, ht₀.of_settings hconfig.symm, htwin.frames, htwin.tallies, htwin.nextId,
      htwin.store.files, htwin.store.levels, e₀, _, he₀, rfl,
      hapart.keep hknown ht₀ ht (fun _ hentry => .inl hentry) hlambdas⟩

end

/-! ## Lambdas -/

/-- **A lambda that puts text around what its text renders to**: given a text and the means to
render it, it has it rendered, and answers the outcome with the one text in front of it and the
other one behind it. All that it may do besides is to note its calls down, and to use up numbers as
it puts the texts together. -/
def Value.Wraps (f : Value) (front back : String) : Prop :=
  ∀ (below : Below) (text : String) (id depth : Nat) (delims : Option String) (s : Session),
    ∃ calls used, f.callLambda below [.text text, .helper id depth delims] s =
      (do
        let out ← renderText below (.text text) delims
        modify fun s => { s with nextId := s.nextId + used }
        pure (.text (front ++ out ++ back)) : Action Value) { s with calls }

/-- What the lambda answers if its text is rendered, the call being noted down or not. -/
theorem Value.Wraps.exists_calls {f : Value} {front back : String} (h : f.Wraps front back)
    (below : Below) (text : String) (id depth : Nat) (delims : Option String) (s : Session) :
    ∃ calls, ∀ loaded s₁ out s₂, loadText text delims { s with calls } = .ok loaded s₁ →
      below.render loaded s₁ = .ok out s₂ → ∃ nextId,
        f.callLambda below [.text text, .helper id depth delims] s =
          .ok (.text (front ++ out ++ back)) { s₂ with nextId } := by
  obtain ⟨calls, used, hcall⟩ := h below text id depth delims s
  refine ⟨calls, fun loaded s₁ out s₂ hload hrender => ⟨s₂.nextId + used, ?_⟩⟩
  have htext : renderText below (.text text) delims { s with calls } = .ok out s₂ :=
    bind_eq_ok_iff.2 ⟨text, _, rfl, bind_eq_ok_iff.2 ⟨loaded, s₁, hload, hrender⟩⟩
  rw [hcall]
  exact bind_eq_ok_iff.2 ⟨out, s₂, htext, rfl⟩

/-! ## Sections -/

section

variable {c : Engine} {t : Template} (hid : t.engine = c.id) (hescaping : t.escaping = c.escaping)
  {head : Section} (hinverted : head.inverted = false) (hdelims : head.delims.InEffect)
  {depth : Nat} {f : Value} {s s₁ s₂ : Session}
  (hfind : findFiltered (level (depth + 1))
    ⟨head.name, head.filters, head.place, t.name, t.source⟩ s = .ok f s₁)
  (hlambda : f.isLambda = true) {front back : String} (hwraps : f.Wraps front back) {u : Template}
  {name : Value} (hparse : parse (head.rawBody t.source) name head.delims = .ok u.tree)
  (hsource : u.source = head.rawBody t.source) (hsibling : t.Sibling u) {out : String}
  (hrender : renderBody (level depth) u { s₁ with nextId := s₁.nextId + 1 } = .ok out s₂)
  (hplain : ¬ head.delims.opening.toList <:+: (front ++ out ++ back).toList)

include hid hescaping hinverted hdelims hfind hlambda hwraps hparse hsource hsibling hrender hplain

/-- **A section of a lambda that puts text around what its text renders to**, if the engine keeps
what it should both when the lambda is called and when it answers. -/
theorem renderSection_of_wraps_of_keepsTexts {known : String → Prop} (hs₁ : s₁.KeepsTexts known c)
    (hs₂ : s₂.KeepsTexts known c) (hasked : ∀ x ∈ s₂.asked, known x)
    (hraw : known (lambdaSource (head.rawBody t.source) head.delims.changeTag?))
    (hanswer : known (lambdaSource (front ++ out ++ back) head.delims.changeTag?))
    (body : Action Output) :
    ∃ s' nextId,
      renderSection (level (depth + 1)) t head body s = .ok (some (front ++ out ++ back)) s' ∧
        { s₂ with nextId }.Twin (Store.TextsApart known) s' := by
  have hwritten := hdelims.written
  obtain ⟨calls, hcall⟩ := hwraps.exists_calls (level (depth + 1)) (head.rawBody t.source)
    s₁.nextId s₁.frames.length head.delims.changeTag? { s₁ with nextId := s₁.nextId + 1 }
  have hhelped : Session.KeepsTexts known c { s₁ with nextId := s₁.nextId + 1 } := ⟨hs₁.engine⟩
  have hnoted : { s₁ with nextId := s₁.nextId + 1 }.Twin (Store.TextsApart known)
      { s₁ with nextId := s₁.nextId + 1, calls } := ⟨rfl, rfl, rfl, hs₁.twin.store⟩
  -- The text is loaded, and its template renders to what the text renders to.
  obtain ⟨tree, -, htree, -⟩ := exists_parse_lambdaSource hwritten hparse .null
  obtain ⟨loaded, s₁', hload, hloaded, htwin⟩ := hhelped.exists_loadText hnoted hraw htree
  have hsibling' : loaded.Sibling u :=
    ⟨hsibling.engine.trans (hid.trans hloaded.engine.symm),
      hsibling.escaping.trans (hescaping.trans hloaded.escaping.symm)⟩
  have hsame := ((faithful_textsApart known).agrees_renderBody
    ((faithful_textsApart known).agrees_level depth) (.refl u)).outcome _ s₁' htwin
    (by rw [hrender]; exact hasked)
  rw [hrender] at hsame
  generalize hrun : renderBody (level depth) u s₁' = r at hsame
  cases hsame with
  | @ok _ _ _ s₂' answers htwin₂ =>
    subst answers
    have hloadedRun : (level (depth + 1)).render loaded s₁' = .ok out s₂' :=
      (hloaded.renderBody_eq_ok_iff hwritten hparse hsource hsibling' (level depth)).2 hrun
    obtain ⟨nextId, hanswered⟩ := hcall loaded s₁' out s₂' hload hloadedRun
    -- The answer is loaded behind the same line, and renders to itself.
    obtain ⟨tree', -, htree', -⟩ :=
      exists_parse_lambdaSource hwritten (parse_of_no_tag hplain .null) .null
    have hused : Session.KeepsTexts known c { s₂ with nextId } := ⟨hs₂.engine⟩
    have hanswering : { s₂ with nextId }.Twin (Store.TextsApart known) { s₂' with nextId } :=
      ⟨htwin₂.frames, htwin₂.tallies, rfl, htwin₂.store⟩
    obtain ⟨last, s', hlast, hlastOf, htwin'⟩ := hused.exists_loadText hanswering hanswer htree'
    have hlastRun : (level (depth + 1)).render last s' = .ok (front ++ out ++ back) s' :=
      hlastOf.renderBody_of_no_tag hwritten hplain (level depth) s'
    obtain ⟨e, he, hconfig, -⟩ := hs₁.engine
    have hengine : engineOf t s₁ = .ok e s₁ := by
      refine engineOf_eq_of_some ?_
      rw [Session.engineOf?, he, Option.filter_some, if_pos]
      rw [hid, Engine.eq_of_settings Engine.id (fun _ => rfl) hconfig.symm, beq_self_eq_true]
    exact ⟨s', nextId, renderSection_of_isLambda hinverted hlambda hfind hengine hanswered hlast
      hlastRun body, htwin'⟩

/-- **A lambda that puts text around what its text renders to is transparent.** Let the name of a
section stand for such a lambda, and let the text between its tags, read under the delimiters of the
section, render to a text at the place of the section, where the helper has just been made. If no
tag opens in this text with the others around it, the section is rendered to it as it stands, and
the frames are what they were. What is left behind differs from what rendering the text leaves
behind in nothing but the texts that the engine keeps, what has been noted down, and the numbers
that have been used up.

The engine has to take the events of loading, to tell the two sources apart by their keys, and to
keep nothing else under them. So its logger serves, and its caches hold what a sound store holds.

**Proof sketch.** The template that the lambda has rendered stands behind the line for the
delimiters, and renders to what the text renders to; that it is loaded before does not show. The
answer stands behind the same line. No tag opens in it, so that it is one text, whatever it begins
and ends with. In between, what the engine keeps has stayed right: what is found under the key of
the answer is the template of the answer. -/
theorem renderNode_of_wraps {sc : Scope} (hs : s.store.IsSound sc c True)
    (hasked : ∀ x ∈ s₂.asked, sc.known x)
    (hraw : sc.known (lambdaSource (head.rawBody t.source) head.delims.changeTag?))
    (hanswer : sc.known (lambdaSource (front ++ out ++ back) head.delims.changeTag?))
    (body : List Node) :
    ∃ s' nextId, renderNode (level (depth + 1)) t (.block head body) s =
        .ok (some (front ++ out ++ back)) s' ∧
      s'.frames = s.frames ∧ { s₂ with nextId }.Twin (Store.TextsApart sc.known) s' := by
  have hfaithful : Faithful (Store.CacheApart sc c) sc.known := Store.CacheApart.faithful
  have hasked₁ : ∀ x ∈ s₁.asked, sc.known x := by
    have hkept := keeps_renderBody (keeps_level depth) u { s₁ with nextId := s₁.nextId + 1 }
    rw [hrender] at hkept
    exact fun x hx => hasked x (hkept.asked hx)
  -- What the engine keeps stays right while the name is looked up and the text is rendered.
  have hs₁ : s₁.store.IsSound sc c True :=
    (agrees_findFiltered (hfaithful.agrees_level _) hfaithful.texts (.refl t) _ _ _).isSound hs
      hfind hasked₁
  have hs₂ : s₂.store.IsSound sc c True :=
    (hfaithful.agrees_renderBody (hfaithful.agrees_level depth) (.refl u)).isSound
      (s := { s₁ with nextId := s₁.nextId + 1 }) hs₁ hrender hasked
  obtain ⟨s', nextId, hsection, htwin⟩ := renderSection_of_wraps_of_keepsTexts hid hescaping
    hinverted hdelims hfind hlambda hwraps hparse hsource hsibling hrender hplain hs₁.keepsTexts
    hs₂.keepsTexts hasked hraw hanswer (renderNodes (level (depth + 1)) t body)
  refine ⟨s', nextId, hsection, ?_, htwin⟩
  have hkept := keeps_renderNode (keeps_level (depth + 1)) t (.block head body) s
  rw [renderNode, hsection] at hkept
  exact hkept.frames

end

/-! ## A lambda that puts text around what its text renders to -/

/-- A lambda with two parameters that puts text around what its text renders to, and that may note
its calls down. -/
def Value.wrapping (front back : String) (traced : Bool) : Value :=
  .function ⟨1, .parameters [⟨"text", .positional, false⟩, ⟨"helper", .positional, false⟩],
    .add (.add (.lit (.text front)) (.render (.arg 0))) (.lit (.text back)), traced⟩

theorem Value.wraps_wrapping (front back : String) (traced : Bool) :
    (wrapping front back traced).Wraps front back := by
  intro below text id depth delims s
  let inv : Invocation := ⟨1, none, [.text text, .helper id depth delims]⟩
  have hrender : Body.eval below inv (.render (.arg 0)) =
      renderText below (.text text) delims >>= fun out => pure (.text out) := by
    simp only [Body.eval]
    rfl
  have hbody : Body.eval below inv
      (.add (.add (.lit (.text front)) (.render (.arg 0))) (.lit (.text back))) =
        (do
          let out ← renderText below (.text text) delims
          modify fun s => { s with nextId := s.nextId + 2 }
          pure (.text (front ++ out ++ back)) : Action Value) := by
    simp only [Body.eval] at hrender ⊢
    rw [hrender]
    simp only [bind_assoc, pure_bind]
    rfl
  cases traced with
  | false => exact ⟨s.calls, 2, congrFun hbody s⟩
  | true => exact ⟨inv.args :: s.calls, 2, congrFun hbody { s with calls := inv.args :: s.calls }⟩

/-- **The scope of two sources** that a label tells apart. -/
def Scope.pair (label x y : String) (h : digest (label ++ x) ≠ digest (label ++ y)) : Scope where
  known z := z = x ∨ z = y
  labels l := l = label
  trees t := t.StoresOnly (MayHold (· = label) fun z => z = x ∨ z = y)
  levels := []
  distinct := by
    rintro _ _ a b rfl rfl (rfl | rfl) (rfl | rfl) hsame
    · rfl
    · exact absurd hsame h
    · exact absurd hsame.symm h
    · rfl
  stored _ ht d := d.holdsTrees_of_storesOnly ht

/-- A session in which a name stands for such a lambda, and another one for a text. -/
def Session.wrapping : Session :=
  { (default : Session) with
    engine := some .unused
    frames := [.dict [(.text "w", .wrapping "<b>" "</b>" true), (.text "n", .text "Ada")]] }

/-- A section under other delimiters that begins with a line break and holds braces. -/
def wrappedSource : String := "\x7b\x7b=<% %>=\x7d\x7d<%#w%>\n<%n%>\x7b\x7b<%/w%>"

/-- The source that a text is loaded as under the delimiters of the section. -/
def angledSource (text : String) : String := lambdaSource text Delimiters.angled.changeTag?

/-- Both of the sources that are loaded are told apart. -/
def Scope.wrapping : Scope :=
  .pair Engine.unused.keyLabel (angledSource "\n<%n%>\x7b\x7b")
    (angledSource "<b>\nAda\x7b\x7b</b>") (by decide +kernel)

theorem Session.isSound_wrapping : Session.wrapping.store.IsSound .wrapping .unused True where
  files := FileTree.storesOnly_default
  levels := rfl
  engine := ⟨.unused, rfl, rfl,
    { label := rfl
      holds := fun _ _ _ ht => absurd ht List.not_mem_nil
      cache := trivial
      serves := Logger.serves_of_adapters_eq_nil rfl _
      loader := Loader.suits_verbatim
      partialsLoader := Loader.suits_verbatim }, fun _ => trivial⟩

/-- The session once the helper has been made. -/
def Session.helped : Session := { Session.wrapping with nextId := Session.wrapping.nextId + 1 }

/-- Both of the names are found, and nothing changes. -/
theorem findName_wrapping (below : Below) :
    findName below "w" .wrapping = .ok (.wrapping "<b>" "</b>" true) .wrapping ∧
      findName below "n" .helped = .ok (.text "Ada") .helped := by
  constructor <;> (unfold findName; rw [if_neg (by decide)]; rfl)

/-- The line break and the braces come through. -/
theorem renderNode_of_wraps_braces : ∃ t head body s', t.source = wrappedSource ∧
    parse wrappedSource .null .usual = .ok t.tree ∧
      t.tree.body = [.delimiterChange ⟨1, 0⟩ .angled, .block head body] ∧
        renderNode (level 1) t (.block head body) .wrapping =
          .ok (some "<b>\nAda\x7b\x7b</b>") s' ∧ s'.frames = Session.wrapping.frames := by
  let opener : Token := ⟨.sectionStart, "w", ⟨1, 11⟩, 11, 17, .angled, ""⟩
  let inner : List Token := [⟨.text, "\n", ⟨1, 17⟩, 17, 18, .angled, ""⟩,
    ⟨.interpolation, "n", ⟨2, 0⟩, 18, 23, .angled, ""⟩,
    ⟨.text, "\x7b\x7b", ⟨2, 5⟩, 23, 25, .angled, ""⟩]
  let closer : Token := ⟨.sectionEnd, "w", ⟨2, 7⟩, 25, 31, .angled, ""⟩
  have htokens : tokenize wrappedSource .null .usual =
      .ok (⟨.delimiterChange, "<% %>", ⟨1, 0⟩, 0, 11, .usual, ""⟩ ::
        opener :: (inner ++ [closer])) :=
    eq_ok_of_toOption_eq_some (by decide +kernel)
  have hreads : Reads false (opener :: (inner ++ closer :: [])) _ :=
    .block (.inl rfl) (by rfl) rfl rfl (.leaf rfl (.leaf rfl (.leaf rfl .nil))) .nil
  obtain ⟨tree, hparse, hbody⟩ := exists_parse_iff.2 ⟨_, htokens, .leaf rfl hreads⟩
  -- The text between the tags, under the delimiters of the section.
  have hrawTokens : tokenize "\n<%n%>\x7b\x7b" .null .angled =
      .ok [⟨.text, "\n", ⟨1, 0⟩, 0, 1, .angled, ""⟩,
        ⟨.interpolation, "n", ⟨2, 0⟩, 1, 6, .angled, ""⟩,
        ⟨.text, "\x7b\x7b", ⟨2, 5⟩, 6, 8, .angled, ""⟩] :=
    eq_ok_of_toOption_eq_some (by decide +kernel)
  obtain ⟨rawTree, hrawParse, hrawBody⟩ :=
    exists_parse_iff.2 ⟨_, hrawTokens, .leaf rfl (.leaf rfl (.leaf rfl .nil))⟩
  have hraw : (sectionOf opener closer "w" []).rawBody wrappedSource = "\n<%n%>\x7b\x7b" := by
    decide +kernel
  let t : Template := ⟨0, 0, .null, "", wrappedSource, tree, Engine.unused.escaping⟩
  let u : Template := { t with source := "\n<%n%>\x7b\x7b", tree := rawTree }
  have hfound : renderInterpolation (level 0) u ⟨2, 0⟩ "n" true [] .angled .helped =
      .ok (some "Ada") .helped :=
    bind_eq_ok_iff.2 ⟨.text "Ada", _,
      bind_eq_ok_iff.2 ⟨_, _, (findName_wrapping _).2, rfl⟩, rfl⟩
  have hrender : renderBody (level 0) u .helped = .ok "\nAda\x7b\x7b" .helped := by
    refine renderBody_eq_ok_iff.2 ?_
    rw [show u.tree.body = _ from hrawBody]
    refine bind_eq_ok_iff.2 ⟨some "\n", _, rfl, bind_eq_ok_iff.2 ⟨some "Ada\x7b\x7b", _,
      bind_eq_ok_iff.2 ⟨some "Ada", _, hfound, rfl⟩, rfl⟩⟩
  obtain ⟨s', -, hrun, hframes, -⟩ := renderNode_of_wraps (c := .unused) (t := t) rfl rfl
    (show (sectionOf opener closer "w" []).inverted = false from rfl) Delimiters.inEffect_angled
    (bind_eq_ok_iff.2 ⟨_, _, (findName_wrapping _).1, rfl⟩) rfl
    (Value.wraps_wrapping "<b>" "</b>" true) (u := u) (hraw ▸ hrawParse) hraw.symm ⟨rfl, rfl⟩
    hrender (by decide +kernel) Session.isSound_wrapping (fun _ hx => absurd hx List.not_mem_nil)
    (.inl (congrArg angledSource hraw)) (.inr (by decide +kernel)) _
  exact ⟨t, _, _, s', rfl, hparse, hbody, hrun, hframes⟩

/-- If the logger refuses the event of compiling the text of the lambda, the section cannot be
rendered, though its text can. -/
theorem Template.exists_wrapped_refused : ∃ (t u : Template) (f : Value), f.Wraps "<b>" "</b>" ∧
    t.IsOf .refusing "\x7b\x7b#w\x7d\x7dx\x7b\x7b/w\x7d\x7d" ∧ u.IsOf .refusing "x" ∧
      (∃ s', u.render (.dict [(.text "w", f)]) [] .refusing = .ok "x" s') ∧
        ∃ e s', t.render (.dict [(.text "w", f)]) [] .refusing = .error e s' := by
  have hof {z : String} (h : (parse z .null .usual).toOption.isSome = true) :
      (made .refusing z).IsOf .refusing z := isOf_made .refusing h
  exact ⟨_, _, _, Value.wraps_wrapping "<b>" "</b>" false, hof (by decide +kernel),
    hof (by decide +kernel), exists_render_eq_ok (by decide +kernel),
    exists_eq_error_of_isOk (by decide +kernel)⟩

end Mustache
