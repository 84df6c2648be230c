import Mustache.Proofs.Render.Alike
import Mustache.Proofs.Render.Kept
import Mustache.Proofs.Tree.Boundary

/-!
# Rendering across a line boundary

Two sources, one behind the other, render to what they render to one after the other, if the first
one ends with a line, has no pragma for filters and leaves the usual delimiters in effect. This is
so for all callables, whatever they leave behind in the session.

## Main results

* `Mustache.sliceOf_append_left`, `Mustache.sliceOf_append_right` — the texts between the tags of
  sections.
* `Mustache.parse_append` — the tree of two sources.
* `Mustache.render_append_in_turn` — they are rendered one after the other.
-/

namespace Mustache

/-! ## Texts of sections -/

/-- A slice that ends within a source when the source goes on. -/
theorem sliceOf_append_left {source : String} {start stop : Nat} (h : stop ≤ source.toList.length)
    (more : String) : sliceOf (source ++ more) start stop = sliceOf source start stop := by
  unfold sliceOf
  rw [String.toList_append, List.take_append_of_le_length h]

/-- A slice of a source behind another one. -/
theorem sliceOf_append_right (front source : String) (start stop : Nat) :
    sliceOf (front ++ source) (start + front.toList.length) (stop + front.toList.length) =
      sliceOf source start stop := by
  unfold sliceOf
  rw [String.toList_append, Nat.add_comm stop, Nat.add_comm start, List.take_length_add_append,
    List.drop_length_add_append]

mutual

/-- A node is alike when its source goes on, if its sections end within the source. -/
theorem Node.alike_append_left {source : String} (more : String) : (n : Node) →
    (∀ name stop, Mark.closing name stop ∈ n.marks → stop ≤ source.toList.length) →
      n.Alike source (source ++ more) n
  | .text _ _, _ => .text _ _ _
  | .interpolation _ _ _ _ _, _ => .interpolation _ _ _ _ _ _
  | .block head body, h =>
    .block
      ⟨rfl, rfl, rfl, rfl, sliceOf_append_left (h head.name head.stop (by simp [Node.marks])) more⟩
      (alike_append_left more body fun name stop hmem => h name stop (by simp [Node.marks, hmem]))
  | .inclusion _ _ _, _ => .inclusion _ _ _ _
  | .comment _ _, _ => .comment _ _ _
  | .delimiterChange _ _, _ => .delimiterChange _ _ _
  | .pragma _ _, _ => .pragma _ _ _
  | .flawed _, _ => .flawed _

/-- Nodes are alike when their source goes on, if their sections end within the source. -/
theorem alike_append_left {source : String} (more : String) : (ns : List Node) →
    (∀ name stop, Mark.closing name stop ∈ marksOf ns → stop ≤ source.toList.length) →
      AllAlike source (source ++ more) ns ns
  | [], _ => .nil
  | n :: ns, h =>
    .cons (n.alike_append_left more fun name stop hmem => h name stop (by simp [marksOf, hmem]))
      (alike_append_left more ns fun name stop hmem => h name stop (by simp [marksOf, hmem]))

end

mutual

/-- A node is alike behind another source. -/
theorem Node.alike_append_right (front source : String) (l : Nat) : (n : Node) →
    n.Alike source (front ++ source) (n.shift front.toList.length l)
  | .text _ _ => .text _ _ _
  | .interpolation _ _ _ _ _ => .interpolation _ _ _ _ _ _
  | .block head body =>
    .block ⟨rfl, rfl, rfl, rfl, sliceOf_append_right front source head.start head.stop⟩
      (alike_append_right front source l body)
  | .inclusion _ _ _ => .inclusion _ _ _ _
  | .comment _ _ => .comment _ _ _
  | .delimiterChange _ _ => .delimiterChange _ _ _
  | .pragma _ _ => .pragma _ _ _
  | .flawed _ => .flawed _

/-- Nodes are alike behind another source. -/
theorem alike_append_right (front source : String) (l : Nat) : (ns : List Node) →
    AllAlike source (front ++ source) ns (shiftAll front.toList.length l ns)
  | [] => .nil
  | n :: ns => .cons (n.alike_append_right front source l) (alike_append_right front source l ns)

end

/-- Closing tags start where their tokens do. -/
theorem exists_of_closing_mem_marksFrom {opened rs : List Reading} {name : String} {start : Nat}
    (h : Mark.closing name start ∈ marksFrom opened rs) : ∃ r ∈ rs, r.token.start = start := by
  induction rs generalizing opened with
  | nil => simp [marksFrom] at h
  | cons r rs ih =>
    rw [marksFrom, List.mem_cons] at h
    rcases h with h | h
    · refine ⟨r, by simp, ?_⟩
      unfold Reading.mark at h
      split at h <;> simp at h
      exact h.2.symm
    · obtain ⟨r', hr', hstart⟩ := ih h
      exact ⟨r', List.mem_cons_of_mem _ hr', hstart⟩

/-- The sections of a tree end within the source. -/
theorem stop_le_of_closing_mem {a : String} {name : Value} {tokens : List Token} {tree : Tree}
    (ha : tokenize a name .usual = .ok tokens) (htree : buildTree tokens = .ok tree)
    {opened : String} {stop : Nat} (h : Mark.closing opened stop ∈ marksOf tree.body) :
    stop ≤ a.toList.length := by
  have hrun := tokenize_eq_ok_iff.1 ha
  rw [marksOf_of_buildTree hrun.hasWords htree] at h
  obtain ⟨r, hr, rfl⟩ := exists_of_closing_mem_marksFrom h
  have hfits := ((hrun.ordered rfl Delimiters.isPlain_usual).1 r.token
    (token_mem_of_mem_readingsFrom hr)).2
  exact Nat.le_trans (Nat.le_of_lt hfits.start_lt_stop) hfits.stop_le

/-! ## The tree of two sources -/

/-- Reading on never leads back to an earlier line. -/
theorem Position.line_le_line_advance (p : Position) (cs : List Char) :
    p.line ≤ (p.advance cs).line := by
  induction cs generalizing p with
  | nil => exact Nat.le_refl _
  | cons c cs ih =>
    refine Nat.le_trans ?_ (ih (p.next c))
    unfold next
    split
    · exact Nat.le_succ _
    · exact Nat.le_refl _

/-- Behind a source that ends with a line, a line starts. -/
theorem exists_advance_eq_shift {cs : List Char} (hline : cs.getLast? = some '\n') :
    ∃ l, Position.start.advance cs = Position.start.shift cs.length l := by
  refine ⟨(Position.start.advance cs).line - 1, ?_⟩
  have hle := Position.line_le_line_advance .start cs
  have hoffset := Position.offset_advance .start cs
  have hcolumn := (Position.column_advance_eq_zero_iff .start cs).2 (.inr hline)
  generalize Position.start.advance cs = p at *
  obtain ⟨offset, line, column⟩ := p
  simp only [Position.start, Position.shift, Position.mk.injEq] at *
  omega

/-- **The tree of two sources**, one behind the other: the nodes of the first one as they are, and
those of the second one some characters and lines further on, with one text for the texts that
meet. -/
theorem parse_append {a b : String} {name name' : Value} {tokens : List Token}
    {first second : Tree} (ha : tokenize a name .usual = .ok tokens)
    (hfirst : buildTree tokens = .ok first) (hb : parse b name' .usual = .ok second)
    (hline : a.toList.getLast? = some '\n') (hfilters : ∀ t ∈ tokens, ¬ t.IsFiltersPragma)
    (hdelims : Delimiters.usual.after tokens = .usual) (name'' : Value) :
    ∃ tree ns ms place u v l, parse (a ++ b) name'' .usual = .ok tree ∧
      first.body = ns ++ textNodes place u ∧
      second.body = textNodes Position.start.place v ++ ms ∧
      tree.body = ns ++ textNodes place (u ++ v) ++ shiftAll a.toList.length l ms := by
  obtain ⟨tokens', hb', hsecond⟩ := parse_eq_ok_iff.1 hb
  obtain ⟨l, hl⟩ := exists_advance_eq_shift hline
  have hmore := tokenize_eq_ok_iff.1 hb'
  rw [← hdelims] at hmore
  obtain ⟨init, e, spot, u, v, rest, rfl, rfl, hrun⟩ :=
    (tokenize_eq_ok_iff.1 ha).append Delimiters.isPlain_usual hl hmore
  obtain ⟨tree, ns, ms, htree, hns, hms, hbody⟩ := buildTree_append a.toList.length l hfirst
    (parseTokens_eq_ok_iff.1 hsecond) fun t ht => hfilters t (List.mem_append_left _ ht)
  refine ⟨tree, ns, ms, spot.place, u, v, l, ?_, hns, hms, hbody⟩
  refine parse_eq_ok_iff.2 ⟨_, ?_, parseTokens_eq_ok_iff.2 htree⟩
  rw [tokenize_eq_ok_iff, String.toList_append]
  exact hrun

/-! ## What two sources render to -/

/-- A body has its nodes for a text. -/
theorem renderBody_eq_ok_iff {below : Below} {t : Template} {s s' : Session} {x : String} :
    renderBody below t s = .ok x s' ↔ renderNodes below t t.tree.body s = .ok (some x) s' := by
  unfold renderBody
  rw [bind_eq_ok_iff]
  constructor
  · rintro ⟨out, s₁, hout, h⟩
    cases out with
    | none => exact nomatch h
    | some text =>
      obtain ⟨rfl, rfl⟩ := pure_eq_ok_iff.1 h
      exact hout
  · intro h
    exact ⟨some x, s', h, rfl⟩

theorem Output.some_append_some (x y : String) :
    Output.append (some x) (some y) = some (x ++ y) := rfl

/-- A stretch of text renders to itself. -/
theorem renderNodes_textNodes (below : Below) (t : Template) (place : Place) (cs : List Char)
    (s : Session) :
    renderNodes below t (textNodes place cs) s = .ok (some (String.ofList cs)) s := by
  unfold textNodes
  split
  · next h =>
    rw [List.isEmpty_iff.1 h]
    rfl
  · show EStateM.Result.ok (some (String.ofList cs ++ "")) s = _
    rw [String.append_empty]

/-- A session with other frames. -/
def Session.framed (s : Session) (frames : List Value) : Session := { s with frames }

theorem Session.framed_eq_self {s : Session} {frames : List Value} (h : s.frames = frames) :
    s.framed frames = s := by
  rw [← h]
  rfl

/-- Rendering a template: its nodes are rendered with the frames for the data, and the frames that
were there are put back. -/
theorem Template.render_eq_ok_iff {t : Template} {data : Value} {locals : Entries} {s s' : Session}
    {x : String} : t.render data locals s = .ok x s' ↔ ∃ s₁,
      renderNodes ground t t.tree.body (s.framed (framesFor (s.engineOf? t) data locals)) =
        .ok (some x) s₁ ∧ s' = s₁.framed s.frames := by
  show withFrames (framesFor (s.engineOf? t) data locals) (renderTemplate t) s = _ ↔ _
  unfold withFrames renderTemplate
  simp only [← renderBody_eq_ok_iff, Session.framed]
  cases renderBody ground t { s with frames := framesFor (s.engineOf? t) data locals } with
  | ok y s₁ =>
    dsimp only
    constructor
    · rintro ⟨⟩
      exact ⟨s₁, rfl, rfl⟩
    · rintro ⟨_, ⟨⟩, rfl⟩
      rfl
  | error e s₁ => simp

/-- A body cannot write a cache if its nodes cannot. -/
theorem renderBody_eq_error_iff {below : Below} {t : Template} {s s' : Session} {e : Fault}
    (he : e.IsUnwritten) :
    renderBody below t s = .error e s' ↔ renderNodes below t t.tree.body s = .error e s' := by
  unfold renderBody
  rw [bind_eq_error_iff]
  constructor
  · rintro (hnodes | ⟨out, s₁, -, h⟩)
    · exact hnodes
    · cases out with
      | none =>
        obtain rfl := (EStateM.Result.error.inj h).1
        exact he.elim
      | some text => exact nomatch h
  · exact .inl

/-- A template cannot write a cache if its nodes cannot. -/
theorem Template.render_eq_error_iff {t : Template} {data : Value} {locals : Entries}
    {s s' : Session} {e : Fault} (he : e.IsUnwritten) :
    t.render data locals s = .error e s' ↔ ∃ s₁,
      renderNodes ground t t.tree.body (s.framed (framesFor (s.engineOf? t) data locals)) =
        .error e s₁ ∧ s' = s₁.framed s.frames := by
  show withFrames (framesFor (s.engineOf? t) data locals) (renderTemplate t) s = _ ↔ _
  unfold withFrames renderTemplate
  simp only [← renderBody_eq_error_iff he, Session.framed]
  cases renderBody ground t { s with frames := framesFor (s.engineOf? t) data locals } with
  | ok y s₁ => simp
  | error e' s₁ =>
    dsimp only
    constructor
    · rintro ⟨⟩
      exact ⟨s₁, rfl, rfl⟩
    · rintro ⟨_, ⟨⟩, rfl⟩
      rfl

/-- The frames for data depend on the configuration of the engine only. -/
theorem framesFor_of_settings {s s' : Session}
    (hsettings : s'.engine.map Engine.settings = s.engine.map Engine.settings) {t t' : Template}
    (hengine : t'.engine = t.engine) (data : Value) (locals : Entries) :
    framesFor (s'.engineOf? t') data locals = framesFor (s.engineOf? t) data locals := by
  unfold Session.engineOf?
  rw [hengine]
  cases hs : s.engine with
  | none =>
    rw [hs, Option.map_none, Option.map_eq_none_iff] at hsettings
    rw [hsettings]
  | some e =>
    rw [hs, Option.map_some, Option.map_eq_some_iff] at hsettings
    obtain ⟨e', hs', heq⟩ := hsettings
    have hid : e'.id = e.id := by
      show e'.settings.id = e.settings.id
      rw [heq]
    have hhelpers : e'.helpers = e.helpers := by
      show e'.settings.helpers = e.settings.helpers
      rw [heq]
    rw [hs', Option.filter_some, Option.filter_some, hid]
    split
    · simp only [framesFor, hhelpers]
    · rfl

/-- Rendering nodes leaves the frames and the configuration of the engine as they were. -/
theorem kept_of_renderNodes {t : Template} {ns : List Node} {s s' : Session} {out : Output}
    (h : renderNodes ground t ns s = .ok out s') : s.Kept s' := by
  have hkept := keeps_renderNodes (keeps_level depthLimit) t ns s
  rwa [show level depthLimit = ground from rfl, h] at hkept

/-! ### One template behind the other -/

section

variable {t₁ t₂ t : Template} {tokens : List Token}
  (htokens : tokenize t₁.source .null .usual = .ok tokens)
  (hbuild : buildTree tokens = .ok t₁.tree) {ns ms : List Node} {place : Place} {u v : List Char}
  {l : Nat} (hns : t₁.tree.body = ns ++ textNodes place u)
  (hms : t₂.tree.body = textNodes Position.start.place v ++ ms)
  (hbody : t.tree.body =
    ns ++ textNodes place (u ++ v) ++ shiftAll t₁.source.toList.length l ms)
  (hsource : t.source = t₁.source ++ t₂.source) (hsibling : t₁.Sibling t₂) (ht : t₁.Sibling t)

include htokens hbuild hns hms hbody hsource hsibling ht

/-- The nodes of two sources, one behind the other, do what the nodes of the second one do in the
session that the nodes of the first one leave. -/
theorem renderNodes_of_parse_append {s s₁ : Session} {x : String}
    (hrun₁ : renderNodes ground t₁ t₁.tree.body s = .ok (some x) s₁) :
    (∀ y s₂, renderNodes ground t₂ t₂.tree.body s₁ = .ok (some y) s₂ →
        renderNodes ground t t.tree.body s = .ok (some (x ++ y)) s₂) ∧
      ∀ e s₂, renderNodes ground t₂ t₂.tree.body s₁ = .error e s₂ → e.IsUnwritten →
        renderNodes ground t t.tree.body s = .error e s₂ := by
  -- The nodes of the first source and those of the second one do what they do on their own.
  rw [hns, renderNodes_append_eq_ok_iff] at hrun₁
  obtain ⟨first, s₁', o, hnodes₁, htext, hx⟩ := hrun₁
  rw [renderNodes_textNodes] at htext
  obtain ⟨rfl, rfl⟩ := EStateM.Result.ok.inj htext
  have hfirst : renderNodes ground t ns s = .ok first s₁' := by
    refine (renderNodes_refines ground ht ?_).ok _ _ _ hnodes₁
    rw [hsource]
    refine alike_append_left t₂.source ns fun name stop hmem => ?_
    have hclosing : Mark.closing name stop ∈ marksOf t₁.tree.body := by
      rw [hns, marksOf_append]
      exact List.mem_append_left _ hmem
    exact stop_le_of_closing_mem htokens hbuild hclosing
  have hsecond : Refines (renderNodes ground t₂ ms)
      (renderNodes ground t (shiftAll t₁.source.toList.length l ms)) := by
    refine renderNodes_refines ground
      ⟨ht.engine.trans hsibling.engine.symm, ht.escaping.trans hsibling.escaping.symm⟩ ?_
    rw [hsource]
    exact alike_append_right _ _ _ _
  rw [hbody, List.append_assoc, hms]
  constructor
  · intro y s₂ hrun₂
    obtain ⟨o, s₁'', second, htext', hnodes₂, hy⟩ := renderNodes_append_eq_ok_iff.1 hrun₂
    rw [renderNodes_textNodes] at htext'
    obtain ⟨rfl, rfl⟩ := EStateM.Result.ok.inj htext'
    refine renderNodes_append_eq_ok_iff.2
      ⟨first, s₁', Output.append (some (String.ofList (u ++ v))) second, hfirst, ?_, ?_⟩
    · exact renderNodes_append_eq_ok_iff.2
        ⟨_, s₁', second, renderNodes_textNodes _ _ _ _ _, hsecond.ok _ _ _ hnodes₂, rfl⟩
    · rw [← Output.some_append_some, hx, hy, Output.append_assoc,
        ← Output.append_assoc (some (String.ofList u)), Output.some_append_some,
        String.ofList_append]
  · intro e s₂ hrun₂ he
    rw [renderNodes_append_eq_error (renderNodes_textNodes _ _ _ _ _)] at hrun₂
    rw [renderNodes_append_eq_error hfirst,
      renderNodes_append_eq_error (renderNodes_textNodes _ _ _ _ _)]
    exact hsecond.unwritten _ _ _ hrun₂ he

/-- The template of two sources, one behind the other, does what the template of the second one does
in the session that the template of the first one leaves. -/
theorem render_of_parse_append {data : Value} {locals : Entries} {s s₁ : Session} {x : String}
    (hx : t₁.render data locals s = .ok x s₁) :
    (∀ y s₂, t₂.render data locals s₁ = .ok y s₂ → t.render data locals s = .ok (x ++ y) s₂) ∧
      ∀ e s₂, t₂.render data locals s₁ = .error e s₂ → e.IsUnwritten →
        t.render data locals s = .error e s₂ := by
  obtain ⟨s₁', hrun₁, rfl⟩ := Template.render_eq_ok_iff.1 hx
  obtain ⟨hwell, hunwritten⟩ :=
    renderNodes_of_parse_append htokens hbuild hns hms hbody hsource hsibling ht hrun₁
  -- The second source meets the session as the first one leaves it.
  have hkept := kept_of_renderNodes hrun₁
  have hback : (s₁'.framed s.frames).engine.map Engine.settings = s.engine.map Engine.settings :=
    hkept.engine
  have hframes : framesFor (s.engineOf? t) data locals = framesFor (s.engineOf? t₁) data locals :=
    framesFor_of_settings rfl ht.engine data locals
  have hstart : (s₁'.framed s.frames).framed
      (framesFor ((s₁'.framed s.frames).engineOf? t₂) data locals) = s₁' := by
    rw [framesFor_of_settings hback hsibling.engine]
    exact Session.framed_eq_self hkept.frames
  constructor
  · intro y s₂ hy
    obtain ⟨s₂', hrun₂, rfl⟩ := Template.render_eq_ok_iff.1 hy
    rw [hstart] at hrun₂
    exact Template.render_eq_ok_iff.2 ⟨s₂', hframes ▸ hwell y s₂' hrun₂, rfl⟩
  · intro e s₂ he hfault
    obtain ⟨s₂', hrun₂, rfl⟩ := (Template.render_eq_error_iff hfault).1 he
    rw [hstart] at hrun₂
    exact (Template.render_eq_error_iff hfault).2
      ⟨s₂', hframes ▸ hunwritten e s₂' hrun₂ hfault, rfl⟩

end

/-- **Two sources are rendered one after the other.** Let the first one end with a line, have no
pragma for filters and leave the usual delimiters in effect, and let both have trees. Then the two
of them, one behind the other, have a tree; and the template of both does what the template of the
second one does in the session that the template of the first one leaves, with what that one has
rendered in front.

**Proof sketch.** The nodes of the first source render as before, because a place shows only in
errors, and the texts of its sections lie within it. They leave the frames as they are, so that the
nodes of the second source meet the frames that they meet on their own. -/
theorem render_append_in_turn {t₁ t₂ : Template} {tokens : List Token}
    (htokens : tokenize t₁.source .null .usual = .ok tokens)
    (htree₁ : parse t₁.source .null .usual = .ok t₁.tree)
    (htree₂ : parse t₂.source .null .usual = .ok t₂.tree) (hsibling : t₁.Sibling t₂)
    (hline : t₁.source.toList.getLast? = some '\n') (hfilters : ∀ u ∈ tokens, ¬ u.IsFiltersPragma)
    (hdelims : Delimiters.usual.after tokens = .usual) :
    ∃ tree, parse (t₁.source ++ t₂.source) .null .usual = .ok tree ∧
      ∀ t : Template, t₁.Sibling t → t.source = t₁.source ++ t₂.source → t.tree = tree →
        ∀ data locals s x s₁, t₁.render data locals s = .ok x s₁ →
          (∀ y s₂, t₂.render data locals s₁ = .ok y s₂ →
            t.render data locals s = .ok (x ++ y) s₂) ∧
          ∀ e s₂, t₂.render data locals s₁ = .error e s₂ → e.IsUnwritten →
            t.render data locals s = .error e s₂ := by
  obtain ⟨_, htokens', hparsed⟩ := parse_eq_ok_iff.1 htree₁
  obtain rfl := Except.ok.inj (htokens.symm.trans htokens')
  have hbuild := parseTokens_eq_ok_iff.1 hparsed
  obtain ⟨tree, ns, ms, place, u, v, l, hparse, hns, hms, hbody⟩ :=
    parse_append htokens hbuild htree₂ hline hfilters hdelims .null
  refine ⟨tree, hparse, fun t ht hsource htree data locals s x s₁ hx => ?_⟩
  rw [← htree] at hbody
  exact render_of_parse_append htokens hbuild hns hms hbody hsource hsibling ht hx

end Mustache
