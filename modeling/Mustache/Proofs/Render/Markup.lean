import Mustache.Proofs.Cache.Provided
import Mustache.Proofs.Render.CommentLine
import Mustache.Proofs.Render.EscapesAs
import Mustache.Proofs.Text.Markup

/-!
# Output without markup

If the texts of the templates hold no characters of markup, every interpolation is escaped, and no
section calls a lambda, then what is written holds no markup, whatever the data are: values, what
filters make of them, and what the lambdas of interpolations render all go through the escaping.

## Main definitions

* `Mustache.Node.isHarmless` — nodes that write no markup of their own.
* `Mustache.CallFreeNodes` — no section calls a lambda when the nodes are rendered.
* `Mustache.Template.Harmless` — both, for a template and for all that it includes.

## Main results

* `Mustache.isMargin_of_mem_indentsOf` — templates are included with indents of blanks.
* `Mustache.isEscaped_renderNodes` — what nodes write.
* `Mustache.render_isMarkupFree` — what a template writes.
-/

namespace Mustache

/-! ## Indents -/

mutual

/-- The indents of the inclusions that a traversal of a node meets. -/
def Node.indents : Node → List String
  | .inclusion _ _ indent => [indent]
  | .block _ body => indentsOf body
  | .text .. | .interpolation .. | .comment .. | .delimiterChange .. | .pragma .. | .flawed _ => []

/-- The indents of the inclusions that a traversal of some nodes meets. -/
def indentsOf : List Node → List String
  | [] => []
  | n :: ns => n.indents ++ indentsOf ns

end

/-- The indents of nodes are those of the tokens that stand for them. -/
theorem Reads.exists_of_mem_indentsOf {filtered : Bool} {tokens : List Token} {ns : List Node}
    (h : Reads filtered tokens ns) {indent : String} (hindent : indent ∈ indentsOf ns) :
    ∃ t ∈ tokens, t.indent = indent := by
  induction h with
  | nil => simp [indentsOf] at hindent
  | @leaf filtered t n ts ns node _ ih =>
    rw [indentsOf, List.mem_append] at hindent
    rcases hindent with hindent | hindent
    · refine ⟨t, by simp, ?_⟩
      cases Reading.leaf?_eq_some_iff.1 node with
      | inclusion _ =>
        rw [Node.indents, List.mem_singleton] at hindent
        exact hindent.symm
      | _ => simp [Node.indents] at hindent
    · obtain ⟨u, hu, heq⟩ := ih hindent
      exact ⟨u, List.mem_cons_of_mem _ hu, heq⟩
  | block _ _ _ _ _ _ ihin ihout =>
    rw [indentsOf, Node.indents, List.mem_append] at hindent
    rcases hindent with hindent | hindent
    · obtain ⟨u, hu, heq⟩ := ihin hindent
      exact ⟨u, by simp [hu], heq⟩
    · obtain ⟨u, hu, heq⟩ := ihout hindent
      exact ⟨u, by simp [hu], heq⟩

/-- The indents of the tokens of a run are blanks. -/
theorem Scanned.isMargin_of_mem_indent {d : Delimiters} {pos : Position} {text : List Char}
    {tokens : List Token} (h : Scanned d pos text tokens) :
    ∀ t ∈ tokens, ∀ c ∈ t.indent.toList, Text.isMargin c = true := by
  induction h with
  | last _ =>
    intro t ht c hc
    obtain ⟨-, rfl⟩ := mem_textToken_iff.1 ht
    simp at hc
  | @tag d changed pos text before body tag tokens found read change _ ih =>
    intro t ht c hc
    rcases mem_tagTokens_append_iff.1 ht with ht | rfl | ht
    · obtain ⟨-, rfl⟩ := mem_textToken_iff.1 ht
      simp at hc
    · simp only [tagToken] at hc
      split at hc
      · exact isMargin_of_mem_droppedBefore (by simpa using hc)
      · simp at hc
    · exact ih t ht c hc

/-- **Templates are included with indents of blanks.** -/
theorem isMargin_of_mem_indentsOf {source : String} {name : Value} {d : Delimiters} {tree : Tree}
    (h : parse source name d = .ok tree) {indent : String}
    (hindent : indent ∈ indentsOf tree.body) :
    ∀ c ∈ indent.toList, Text.isMargin c = true := by
  obtain ⟨tokens, htokens, hreads⟩ := exists_parse_iff.1 ⟨tree, h, rfl⟩
  obtain ⟨t, ht, rfl⟩ := hreads.exists_of_mem_indentsOf hindent
  exact (tokenize_eq_ok_iff.1 htokens).isMargin_of_mem_indent t ht

/-- Blanks are no markup. -/
theorem isMarkup_of_isMargin {c : Char} (h : Text.isMargin c = true) : isMarkup c = false := by
  simp only [Text.isMargin, Bool.or_eq_true, beq_iff_eq] at h
  rcases h with rfl | rfl <;> decide

/-! ## Nodes without markup -/

mutual

/-- **A node that writes no markup of its own**: the texts hold no character of markup, and every
interpolation is escaped. -/
def Node.isHarmless : Node → Bool
  | .text _ value => value.toList.all fun c => !isMarkup c
  | .interpolation _ _ escaped _ _ => escaped
  | .block _ body => areHarmless body
  | .inclusion .. | .comment .. | .delimiterChange .. | .pragma .. | .flawed _ => true

/-- Nodes that write no markup of their own. -/
def areHarmless : List Node → Bool
  | [] => true
  | n :: ns => n.isHarmless && areHarmless ns

end

mutual

/-- When the node is rendered in the session, no section calls a lambda, and the templates that are
included are as required. -/
def CallFreeNode (below : Below) (required : Template → Session → Prop) (t : Template) :
    Node → Session → Prop
  | .block head body, s => ∀ v s',
      findFiltered below ⟨head.name, head.filters, head.place, t.name, t.source⟩ s = .ok v s' →
        if head.inverted then v.truth = .ok false → CallFreeNodes below required t body s'
        else v.isLambda = false ∧ (v.truth = .ok true →
          Throughout (renderNodes below t body) (CallFreeNodes below required t body) v.items s')
  | .inclusion _ name _, s => ∀ included s',
      loadPartial? below name s = .ok (some included) s' → required included s'
  | .text .., _ | .interpolation .., _ | .comment .., _ | .delimiterChange .., _ | .pragma .., _
  | .flawed _, _ => True

/-- **No section calls a lambda** when the nodes are rendered in the session, and the templates that
are included are as required. -/
def CallFreeNodes (below : Below) (required : Template → Session → Prop) (t : Template) :
    List Node → Session → Prop
  | [], _ => True
  | n :: ns, s =>
    CallFreeNode below required t n s ∧
      ∀ out s', renderNode below t n s = .ok out s' → CallFreeNodes below required t ns s'

end

/-- A template, and all that it includes when it is rendered in the session: parsed from sources,
without markup of its own, and without a section that calls a lambda. So many levels deep is this
asked for. -/
def Template.HarmlessIn : Nat → Template → Session → Prop
  | 0, _, _ => True
  | depth + 1, t, s =>
    (∃ source name d, parse source name d = .ok t.tree) ∧ areHarmless t.tree.body = true ∧
      CallFreeNodes (level depth) (HarmlessIn depth) t t.tree.body s

/-- **A harmless template**: when it is rendered with the data, none of its texts and of those of
the templates that it includes holds a character of markup, all their interpolations are escaped,
and none of their sections that are reached calls a lambda. -/
def Template.Harmless (t : Template) (data : Value) (locals : Entries) (s : Session) : Prop :=
  t.HarmlessIn (depthLimit + 1) (s.framed (framesFor (s.engineOf? t) data locals))

/-! ## What is written -/

/-- What has been written is escaped, so far as it is text. -/
def Output.IsEscaped (out : Output) : Prop := ∀ text, out = some text → Escaped text.toList

namespace Output.IsEscaped

theorem empty : Output.empty.IsEscaped := by
  rintro text ⟨⟩
  exact .nil

theorem of_escaped {text : String} (h : Escaped text.toList) : IsEscaped (some text) := by
  rintro _ ⟨⟩
  exact h

theorem append {out out' : Output} (h : out.IsEscaped) (h' : out'.IsEscaped) :
    (out.append out').IsEscaped := by
  cases out with
  | none => exact nofun
  | some x =>
    cases out' with
    | none => exact nofun
    | some y =>
      refine of_escaped ?_
      rw [String.toList_append]
      exact (h x rfl).append (h' y rfl)

end Output.IsEscaped

section

variable {charset : String} {s : Text.Charset} (hs : Text.Charset.find charset = .ok s)
  (hname : s.name ∈ markupCharsets)

include hs hname

/-- **Whatever is interpolated is escaped.** -/
theorem isEscaped_escapeText {below : Below} {text : String} {s₀ s₁ : Session} {out : Output}
    (h : escapeText below (.markup charset) text s₀ = .ok out s₁) : out.IsEscaped := by
  unfold escapeText at h
  by_cases hempty : (text == "") = true
  · rw [if_pos hempty] at h
    obtain ⟨rfl, -⟩ := pure_eq_ok_iff.1 h
    rw [beq_iff_eq] at hempty
    subst hempty
    exact .of_escaped .nil
  · rw [if_neg hempty] at h
    dsimp only at h
    cases hescape : escape charset text with
    | ok escaped =>
      rw [hescape] at h
      obtain ⟨rfl, -⟩ := pure_eq_ok_iff.1 h
      exact .of_escaped (escaped_escape hs hname hescape)
    | error e =>
      rw [hescape] at h
      exact nomatch h

end

/-- What is required of a level: the templates that it renders as required write escaped text. -/
def Below.WritesEscaped (below : Below) (escaping : Escaping)
    (required : Template → Session → Prop) : Prop :=
  ∀ t s s' x, required t s → s.EscapesAs escaping → t.escaping = escaping →
    below.render t s = .ok x s' → Escaped x.toList

section

variable {below : Below} {required : Template → Session → Prop} {charset : String}
  {t : Template} (ht : t.escaping = .markup charset)

/-- Whether the engine of a template is there is found out without a change of the session. -/
theorem eq_of_engineOf {s s' : Session} {e : Engine} (h : engineOf t s = .ok e s') : s' = s := by
  cases he : s.engineOf? t with
  | some e' =>
    rw [engineOf_eq_of_some he] at h
    exact (EStateM.Result.ok.inj h).2.symm
  | none =>
    rw [engineOf_eq_of_none he] at h
    exact nomatch h

/-- Items write escaped text if one item does. -/
theorem isEscaped_renderItems {escaping : Escaping} {act : Action Output} {cond : Session → Prop}
    (hact : Oblivious (fun s s' => s' = s ∧ s.EscapesAs escaping) act)
    (h : ∀ s out s', cond s → s.EscapesAs escaping → act s = .ok out s' → out.IsEscaped)
    {items : List Value} {s s' : Session} {out : Output} (hcond : Throughout act cond items s)
    (hs : s.EscapesAs escaping) (hrun : renderItems act items s = .ok out s') : out.IsEscaped := by
  induction items generalizing s s' out with
  | nil =>
    obtain ⟨rfl, -⟩ := pure_eq_ok_iff.1 hrun
    exact .empty
  | cons item items ih =>
    obtain ⟨hfirst, hothers⟩ := hcond
    obtain ⟨first, s₁, hitem, hrun⟩ := bind_eq_ok_iff.1 hrun
    obtain ⟨others, s₂, hitems, hout⟩ := bind_eq_ok_iff.1 hrun
    obtain ⟨rfl, -⟩ := pure_eq_ok_iff.1 hout
    obtain ⟨s₀, hbody, rfl⟩ := withFrame_eq_ok_iff.1 hitem
    have hs₀ : s₀.EscapesAs escaping :=
      Session.EscapesAs.of_eq_ok hact (s := s.framed (item :: s.frames)) hs hbody
    exact (h _ _ _ hfirst hs hbody).append (ih (hothers _ _ hitem) hs₀ hitems)

include ht

section

variable {s : Text.Charset} (hcharset : Text.Charset.find charset = .ok s)
  (hname : s.name ∈ markupCharsets)

include hcharset hname

/-- **Values and the texts of lambdas are written escaped.** -/
theorem isEscaped_renderInterpolation {place : Place} {name : String} {filters : List String}
    {delims : Delimiters} {s₀ s₁ : Session} {out : Output}
    (h : renderInterpolation below t place name true filters delims s₀ = .ok out s₁) :
    out.IsEscaped := by
  obtain ⟨v, s₂, -, h⟩ := bind_eq_ok_iff.1 h
  by_cases hv : v.isLambda = true
  · rw [if_pos hv] at h
    obtain ⟨text, s₃, -, h⟩ := bind_eq_ok_iff.1 h
    dsimp only at h
    rw [if_pos rfl, ht] at h
    exact isEscaped_escapeText hcharset hname h
  · rw [if_neg hv] at h
    obtain ⟨text, s₃, -, h⟩ := bind_eq_ok_iff.1 h
    dsimp only at h
    rw [if_pos rfl, ht] at h
    exact isEscaped_escapeText hcharset hname h

end

variable (hbelow : below.Oblivious (fun s s' => s' = s ∧ s.EscapesAs (.markup charset)) True)
  (hwrites : below.WritesEscaped (.markup charset) required)

include hbelow

omit ht in
include hwrites in
/-- An included template writes escaped text, and so it stays when it is indented. -/
theorem isEscaped_renderInclusion {place : Place} {name indent : String} {s₀ s₁ : Session}
    {out : Output} (hs : s₀.EscapesAs (.markup charset)) (hindent : Escaped indent.toList)
    (hfree : CallFreeNode below required t (.inclusion place name indent) s₀)
    (h : renderInclusion below t name indent s₀ = .ok out s₁) : out.IsEscaped := by
  obtain ⟨e, s₂, hengine, hrest⟩ := bind_eq_ok_iff.1 h
  obtain rfl := eq_of_engineOf hengine
  obtain ⟨found, s₃, hload, hrest⟩ := bind_eq_ok_iff.1 hrest
  cases found with
  | none =>
    obtain ⟨rfl, -⟩ := pure_eq_ok_iff.1 hrest
    exact .empty
  | some included =>
    obtain ⟨text, s₄, hrender, hrest⟩ := bind_eq_ok_iff.1 hrest
    obtain ⟨rfl, -⟩ := pure_eq_ok_iff.1 hrest
    have hR := isUnseen_escapesAs (.markup charset)
    have hs₃ := Session.EscapesAs.of_eq_ok (hR.loadPartial? hbelow name) hs hload
    have hescaping := escaping_of_loadPartial? hbelow hs hload
    rw [CallFreeNode] at hfree
    have htext := hwrites included s₃ s₄ text (hfree included s₃ hload) hs₃ hescaping hrender
    refine .of_escaped ?_
    rw [indentLines, String.toList_ofList]
    exact htext.indentFrom hindent true

omit ht in
/-- A section writes escaped text if its nodes do and it calls no lambda. -/
theorem isEscaped_renderSection {head : Section} {body : List Node}
    (hbody : Oblivious (fun s s' => s' = s ∧ s.EscapesAs (.markup charset))
      (renderNodes below t body))
    (h : ∀ s out s', CallFreeNodes below required t body s → s.EscapesAs (.markup charset) →
      renderNodes below t body s = .ok out s' → out.IsEscaped)
    {s₀ s₁ : Session} {out : Output} (hs : s₀.EscapesAs (.markup charset))
    (hfree : CallFreeNode below required t (.block head body) s₀)
    (hrun : renderSection below t head (renderNodes below t body) s₀ = .ok out s₁) :
    out.IsEscaped := by
  obtain ⟨v, s₂, hfind, hshow⟩ := bind_eq_ok_iff.1 hrun
  have hR := isUnseen_escapesAs (.markup charset)
  have hs₂ := Session.EscapesAs.of_eq_ok (hR.findFiltered hbelow _) hs hfind
  rw [CallFreeNode] at hfree
  have hcond := hfree v s₂ hfind
  by_cases hinverted : head.inverted = true
  · rw [if_pos hinverted] at hcond hshow
    obtain ⟨shown, s₃, hlift, hnodes⟩ := bind_eq_ok_iff.1 hshow
    obtain ⟨htruth, rfl⟩ := liftFault_eq_ok_iff.1 hlift
    cases shown with
    | true =>
      obtain ⟨rfl, -⟩ := pure_eq_ok_iff.1 hnodes
      exact .empty
    | false => exact h _ _ _ (hcond htruth) hs₂ hnodes
  · rw [if_neg hinverted] at hcond hshow
    obtain ⟨hplain, hitems⟩ := hcond
    rw [if_neg (by simp [hplain])] at hshow
    obtain ⟨shown, s₃, hlift, hnodes⟩ := bind_eq_ok_iff.1 hshow
    obtain ⟨htruth, rfl⟩ := liftFault_eq_ok_iff.1 hlift
    cases shown with
    | true => exact isEscaped_renderItems hbody h (hitems htruth) hs₂ hnodes
    | false =>
      obtain ⟨rfl, -⟩ := pure_eq_ok_iff.1 hnodes
      exact .empty

end

/-! ## Templates -/

/-- A template that escapes for markup, over a level on which the templates that are as required
write escaped text. -/
structure Template.EscapesOver (below : Below) (required : Template → Session → Prop)
    (charset : String) (t : Template) : Prop where
  escaping : t.escaping = .markup charset
  suits : ∃ s, Text.Charset.find charset = .ok s ∧ s.name ∈ markupCharsets
  keeps : below.Keeps
  oblivious : below.Oblivious (fun s s' => s' = s ∧ s.EscapesAs (.markup charset)) True
  writes : below.WritesEscaped (.markup charset) required

mutual

theorem isEscaped_renderNode {below : Below} {required : Template → Session → Prop}
    {charset : String} {t : Template} (ht : t.EscapesOver below required charset) :
    (n : Node) → n.isHarmless = true → (∀ indent ∈ n.indents, Escaped indent.toList) →
      ∀ {s s' : Session} {out : Output}, s.EscapesAs (.markup charset) →
        CallFreeNode below required t n s → renderNode below t n s = .ok out s' → out.IsEscaped
  | .text _ value, hharmless, _, _, _, _, _, _, h => by
    obtain ⟨rfl, -⟩ := pure_eq_ok_iff.1 h
    rw [Node.isHarmless, List.all_eq_true] at hharmless
    exact .of_escaped (.of_plain fun c hc => by simpa using hharmless c hc)
  | .interpolation _ _ escaped _ _, hharmless, _, _, _, _, _, _, h => by
    obtain ⟨s, hs, hname⟩ := ht.suits
    rw [Node.isHarmless] at hharmless
    subst hharmless
    exact isEscaped_renderInterpolation ht.escaping hs hname h
  | .block head body, hharmless, hindents, _, _, _, hs, hfree, h => by
    have hR := isUnseen_escapesAs (.markup charset)
    have hbody := hR.renderNodes ht.oblivious ht.keeps t body
    exact isEscaped_renderSection ht.oblivious hbody (fun _ _ _ hfree hs h =>
      isEscaped_renderNodes ht body hharmless hindents hs hfree h) hs hfree h
  | .inclusion _ _ indent, _, hindents, _, _, _, hs, hfree, h =>
    isEscaped_renderInclusion ht.oblivious ht.writes hs (hindents indent List.mem_cons_self) hfree h
  | .comment _ _, _, _, _, _, _, _, _, h => by
    obtain ⟨rfl, -⟩ := pure_eq_ok_iff.1 h
    exact .empty
  | .delimiterChange _ _, _, _, _, _, _, _, _, h => by
    obtain ⟨rfl, -⟩ := pure_eq_ok_iff.1 h
    exact .empty
  | .pragma _ _, _, _, _, _, _, _, _, h => by
    obtain ⟨rfl, -⟩ := pure_eq_ok_iff.1 h
    exact .empty
  | .flawed flaw, _, _, _, _, _, _, _, h => by
    cases flaw with
    | lacking => exact nomatch h
    | wrongKind => exact nomatch h
    | notText =>
      obtain ⟨rfl, -⟩ := pure_eq_ok_iff.1 h
      exact nofun

/-- **What harmless nodes write is escaped.** -/
theorem isEscaped_renderNodes {below : Below} {required : Template → Session → Prop}
    {charset : String} {t : Template} (ht : t.EscapesOver below required charset) :
    (ns : List Node) → areHarmless ns = true → (∀ indent ∈ indentsOf ns, Escaped indent.toList) →
      ∀ {s s' : Session} {out : Output}, s.EscapesAs (.markup charset) →
        CallFreeNodes below required t ns s → renderNodes below t ns s = .ok out s' → out.IsEscaped
  | [], _, _, _, _, _, _, _, h => by
    obtain ⟨rfl, -⟩ := pure_eq_ok_iff.1 h
    exact .empty
  | n :: ns, hharmless, hindents, s, s', out, hs, hfree, h => by
    rw [areHarmless, Bool.and_eq_true] at hharmless
    simp only [indentsOf, List.forall_mem_append] at hindents
    obtain ⟨first, s₁, hfirst, h⟩ := bind_eq_ok_iff.1 h
    obtain ⟨others, s₂, hothers, h⟩ := bind_eq_ok_iff.1 h
    obtain ⟨rfl, -⟩ := pure_eq_ok_iff.1 h
    have hR := isUnseen_escapesAs (.markup charset)
    have hs₁ := Session.EscapesAs.of_eq_ok (hR.renderNode ht.oblivious ht.keeps t n) hs hfirst
    exact (isEscaped_renderNode ht n hharmless.1 hindents.1 hs hfree.1 hfirst).append
      (isEscaped_renderNodes ht ns hharmless.2 hindents.2 hs₁ (hfree.2 _ _ hfirst) hothers)

end

/-- **Harmless templates write escaped text**, at every level.

**Proof sketch.** Induction on the depth: what a template includes is rendered a level below. -/
theorem writesEscaped_level {charset : String}
    (hsuits : ∃ s, Text.Charset.find charset = .ok s ∧ s.name ∈ markupCharsets) (depth : Nat) :
    (level depth).WritesEscaped (.markup charset) (Template.HarmlessIn depth) := by
  induction depth with
  | zero => exact fun _ _ _ _ _ _ _ hrun => nomatch hrun
  | succ depth ih =>
    rintro t s s' x ⟨⟨source, name, d, hparse⟩, hharmless, hfree⟩ hs ht hrun
    have hindents : ∀ indent ∈ indentsOf t.tree.body, Escaped indent.toList :=
      fun indent hindent => .of_plain fun c hc =>
        isMarkup_of_isMargin (isMargin_of_mem_indentsOf hparse hindent c hc)
    have hover : t.EscapesOver (level depth) (Template.HarmlessIn depth) charset :=
      { escaping := ht
        suits := hsuits
        keeps := keeps_level depth
        oblivious := (isUnseen_escapesAs _).level depth
        writes := ih }
    have hnodes := renderBody_eq_ok_iff.1 hrun
    exact isEscaped_renderNodes hover t.tree.body hharmless hindents hs hfree hnodes x rfl

/-- An engine that escapes, and not by a callable, escapes for markup. -/
theorem Engine.escaping_eq_markup {e : Engine} (hautoescape : e.autoescape = true)
    (hescape : e.escape = none) : e.escaping = .markup e.charset := by
  simp [escaping, escapingFor, hautoescape, hescape]

/-- **No markup is injected.** Let an engine escape for markup, in a charset that represents every
character, in US-ASCII or in ISO-8859-1, and let all that it keeps escape so as well, as it does
whatever has been done with the engine (`escapesAs_of_operations`). Whatever the data and the
helpers are, if a harmless template of the engine renders to a text, then this text holds no angle
bracket and no double quote, and every ampersand in it begins a character reference.

**Proof sketch.** What is written is put together of texts without markup, of values, filtered
values and texts of lambdas that have been escaped, and of included templates, whose lines are
indented with blanks. No route leads past the escaping but a section that calls a lambda. This goes
by induction on the level (`writesEscaped_level`) and, within one level, on the tree
(`isEscaped_renderNodes`). -/
theorem render_isMarkupFree {s s' : Session} {e : Engine} {charset : Text.Charset} {t : Template}
    (he : s.engine = some e) (hautoescape : e.autoescape = true) (hescape : e.escape = none)
    (hcharset : Text.Charset.find e.charset = .ok charset) (hname : charset.name ∈ markupCharsets)
    (hkept : ∀ entry ∈ e.templates, entry.2.escaping = e.escaping) (ht : t.escaping = e.escaping)
    {data : Value} {locals : Entries} (hharmless : t.Harmless data locals s) {x : String}
    (hrun : t.render data locals s = .ok x s') : IsMarkupFree x.toList := by
  have hmarkup : e.escaping = .markup e.charset := Engine.escaping_eq_markup hautoescape hescape
  have hs : (s.framed (framesFor (s.engineOf? t) data locals)).EscapesAs (.markup e.charset) :=
    ⟨e, he, hmarkup, fun entry hentry => (hkept entry hentry).trans hmarkup⟩
  obtain ⟨s₁, hnodes, -⟩ := Template.render_eq_ok_iff.1 hrun
  have hbody : renderBody ground t (s.framed (framesFor (s.engineOf? t) data locals)) = .ok x s₁ :=
    renderBody_eq_ok_iff.2 hnodes
  have hescaped : Escaped x.toList :=
    writesEscaped_level ⟨charset, hcharset, hname⟩ (depthLimit + 1) t _ s₁ x hharmless hs
      (ht.trans hmarkup) hbody
  exact hescaped.isMarkupFree

/-- A name without a dot is looked up in the topmost frame, if this is a table that holds it. -/
theorem findName_of_holds {below : Below} {name : String} (hself : name ≠ ".")
    (hfields : Text.fieldsOf '.' name = [name]) {es : Entries} {v : Value}
    (holds : es.find? name = some v) (present : v.isMissing = false) (s : Session)
    (frames : List Value) :
    findName below name (s.framed (.dict es :: frames)) =
      .ok v (s.framed (.dict es :: frames)) := by
  have hmember : Value.memberNamed below (.dict es) name (s.framed (.dict es :: frames)) =
      .ok v (s.framed (.dict es :: frames)) := by
    show EStateM.Result.ok ((es.find? name).getD .missing) _ = _
    rw [holds]
    rfl
  unfold findName
  rw [if_neg (by simpa using hself)]
  simp only [hfields]
  show (findIn below name (.dict es :: frames) >>= fun v => followPath below v []) _ = _
  unfold findIn
  rw [bind_assoc, bind_of_ok hmember, if_neg (by simp [present])]
  rfl

/-- A section repeats a value of the data. -/
theorem render_isMarkupFree_section : ∃ (e : Engine) (t : Template) (s' : Session),
    (e.autoescape = true ∧ e.escape = none ∧ e.templates = []) ∧
      t.Harmless (.dict [(.text "a", .text "<")]) [] (.unused e) ∧
      t.render (.dict [(.text "a", .text "<")]) [] (.unused e) = .ok "&lt;" s' ∧
        IsMarkupFree "&lt;".toList := by
  let source := "\x7b\x7b#a\x7d\x7d\x7b\x7b.\x7d\x7d\x7b\x7b/a\x7d\x7d"
  let opener : Token := ⟨.sectionStart, "a", ⟨1, 0⟩, 0, 6, .usual, ""⟩
  let inner : Token := ⟨.interpolation, ".", ⟨1, 6⟩, 6, 11, .usual, ""⟩
  let closer : Token := ⟨.sectionEnd, "a", ⟨1, 11⟩, 11, 17, .usual, ""⟩
  have htokens : tokenize source .null .usual = .ok [opener, inner, closer] :=
    eq_ok_of_toOption_eq_some (by decide +kernel)
  have hreads : Reads false (opener :: ([inner] ++ closer :: [])) _ :=
    .block (.inl rfl) (by rfl) rfl rfl (.leaf rfl .nil) .nil
  obtain ⟨tree, hparse, hbody⟩ := exists_parse_iff.2 ⟨_, htokens, hreads⟩
  let e : Engine := .tabled "p" ""
  let t : Template := .made e source
  have htree : t.tree = tree := by
    show (parse source .null .usual).toOption.getD default = tree
    rw [hparse]
    rfl
  let data : Value := .dict [(.text "a", .text "<")]
  let s : Session := (Session.unused e).framed [data]
  have hfind : findFiltered ground ⟨"a", [], ⟨1, 0⟩, .null, source⟩ s = .ok (.text "<") s := by
    have hvalue : findName ground "a" s = .ok (.text "<") s :=
      findName_of_holds (by decide) (by decide) rfl rfl (.unused e) []
    exact bind_of_ok hvalue
  have hharmless : t.Harmless data [] (.unused e) := by
    refine ⟨⟨source, .null, .usual, htree ▸ hparse⟩, ?_, ?_⟩
    · rw [htree, hbody]
      rfl
    · show CallFreeNodes ground (Template.HarmlessIn depthLimit) t t.tree.body s
      rw [htree, hbody]
      refine ⟨fun v s' hv => ?_, fun _ _ _ => trivial⟩
      obtain ⟨rfl, rfl⟩ := EStateM.Result.ok.inj (hfind.symm.trans hv)
      exact ⟨rfl, fun _ => ⟨⟨trivial, fun _ _ _ => trivial⟩, fun _ _ _ => trivial⟩⟩
  obtain ⟨s', hrun⟩ : ∃ s', t.render data [] (.unused e) = .ok "&lt;" s' :=
    Template.exists_render_eq_ok (by decide +kernel)
  have hname : (Text.Charset.find e.charset).toOption.map Text.Charset.name = some "utf-8" := by
    decide +kernel
  obtain ⟨charset, hcharset, hname⟩ := Option.map_eq_some_iff.1 hname
  exact ⟨e, t, s', ⟨rfl, rfl, rfl⟩, hharmless, hrun,
    render_isMarkupFree rfl rfl rfl (eq_ok_of_toOption_eq_some hcharset)
      (by simp [hname, markupCharsets]) (fun _ h => absurd h List.not_mem_nil) rfl hharmless hrun⟩

/-- **A filter may make a value callable.** The name of a section stands for a text, and what the
filter of the section makes of it is a function; so the section calls it, and what it answers is
rendered as a template of its own and written as it is. -/
theorem exists_markup_injected : ∃ (e : Engine) (t : Template) (data : Value) (place : Place)
    (head : Section) (body : List Node) (s' : Session),
    (e.autoescape = true ∧ e.escape = none ∧ e.charset = "UTF-8" ∧ e.templates = []) ∧
      parse t.source .null .usual = .ok t.tree ∧ t.escaping = e.escaping ∧
      t.tree.body = [.pragma place "FILTERS", .block head body] ∧ areHarmless t.tree.body = true ∧
      (∃ v s₁, findName ground head.name ((Session.unused e).framed
        (framesFor ((Session.unused e).engineOf? t) data [])) = .ok v s₁ ∧ v.isCallable = false) ∧
      t.render data [] (.unused e) = .ok "<b>" s' ∧ ¬ IsMarkupFree "<b>".toList := by
  let source := "\x7b\x7b%FILTERS\x7d\x7d\x7b\x7b#x|f\x7d\x7db\x7b\x7b/x|f\x7d\x7d"
  let pragma : Token := ⟨.pragma, "FILTERS", ⟨1, 0⟩, 0, 12, .usual, ""⟩
  let opener : Token := ⟨.sectionStart, "x|f", ⟨1, 12⟩, 12, 20, .usual, ""⟩
  let inner : Token := ⟨.text, "b", ⟨1, 20⟩, 20, 21, .usual, ""⟩
  let closer : Token := ⟨.sectionEnd, "x|f", ⟨1, 21⟩, 21, 29, .usual, ""⟩
  let head : Section := ⟨⟨1, 12⟩, "x", false, ["f"], 20, 21, .usual⟩
  let tree : Tree := ⟨[.pragma ⟨1, 0⟩ "FILTERS", .block head [.text ⟨1, 20⟩ "b"]], ["FILTERS"]⟩
  have htokens : tokenize source .null .usual = .ok [pragma, opener, inner, closer] :=
    eq_ok_of_toOption_eq_some (by decide +kernel)
  have hsplit : splitFilters true "x|f" = some ("x", ["f"]) :=
    splitFilters_of_fields (by decide) rfl rfl
  have hpragmas : ["FILTERS"].eraseReps = ["FILTERS"] := rfl
  have hbuild : buildTree [pragma, opener, inner, closer] = .ok tree := by
    simp [buildTree, Builder.steps, Builder.step, Builder.openSection, Builder.closeSection,
      Builder.split, Builder.filtersActive, Builder.empty, Builder.push, Builder.finish,
      filtersPragma, hsplit, hpragmas, pragma, opener, inner, closer, tree, head]
  let one : Signature := .parameters [⟨"a", .positional, false⟩]
  let g : Callable := ⟨1, one, .lit (.text "<b>"), false⟩
  let f : Callable := ⟨0, one, .function g, false⟩
  let data : Value := .dict [(.text "x", .text "a"), (.text "f", .function f)]
  let e : Engine := .tabled "p" ""
  let t : Template := { (default : Template) with source, tree, escaping := e.escaping }
  obtain ⟨s', hrun⟩ : ∃ s', t.render data [] (.unused e) = .ok "<b>" s' :=
    Template.exists_render_eq_ok (by decide +kernel)
  refine ⟨e, t, data, ⟨1, 0⟩, head, [.text ⟨1, 20⟩ "b"], s', ⟨rfl, rfl, rfl, rfl⟩, ?_, rfl, rfl,
    rfl, ?_, hrun, ?_⟩
  · exact parse_eq_ok_iff.2 ⟨_, htokens, parseTokens_eq_ok_iff.2 hbuild⟩
  · exact ⟨.text "a", (Session.unused e).framed [data],
      findName_of_holds (by decide) (by decide) rfl rfl (.unused e) [], rfl⟩
  · intro hfree
    exact hfree.less (by decide)

end Mustache
