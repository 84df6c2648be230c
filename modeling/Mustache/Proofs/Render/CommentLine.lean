import Mustache.Proofs.Render.Moved
import Mustache.Proofs.Render.Frames
import Mustache.Proofs.Token.CommentLine
import Mustache.Proofs.Tree.Slice

/-!
# Rendering a template with one more comment

A line that holds nothing but a comment may be put in where a line starts outside of tags. In the
tree a comment is added, and a text that reaches across falls into two. Only a section around the
line has another text between its tags. So the template renders as before, unless a lambda is called
with the text of such a section.

## Main definitions

* `Mustache.Commented` — nodes, and the same nodes with a comment put in.
* `Mustache.LambdaFreeNodes` — no lambda is called for a section around an offset.
* `Mustache.Template.LambdaFreeAt` — the same for a template that is rendered with data.

## Main results

* `Mustache.Reads.commented` — the nodes of the tokens with a comment put in.
* `Mustache.Commented.refines` — nodes with a comment put in render as before.
* `Mustache.render_commentLine` — so does a template.
-/

namespace Mustache

/-! ## Nodes -/

/-- **Nodes with a comment put in** at an offset `p` of the source: somewhere among them, at any
depth, perhaps within a text. The other nodes differ in places only, but for the text between the
tags of the sections around the offset. -/
inductive Commented (source source' : String) (p : Nat) : List Node → List Node → Prop
  /-- The comment is put in front of the nodes, or into a text that they start with. -/
  | here {place place' place'' spot : Place} {u v : List Char} {value : String}
    {ns ns' : List Node} (others : AllAlike source source' ns ns') :
    Commented source source' p (textNodes place (u ++ v) ++ ns)
      (textNodes place' u ++ .comment spot value :: (textNodes place'' v ++ ns'))
  /-- It is put in behind the first node. -/
  | behind {n n' : Node} {ns ns' : List Node} (first : n.Alike source source' n')
    (others : Commented source source' p ns ns') : Commented source source' p (n :: ns) (n' :: ns')
  /-- It is put into the first node, which is a section around the offset. -/
  | inside {head head' : Section} {body body' ns ns' : List Node} (name : head'.name = head.name)
    (inverted : head'.inverted = head.inverted) (filters : head'.filters = head.filters)
    (start_le : head.start ≤ p) (le_stop : p ≤ head.stop)
    (bodies : Commented source source' p body body') (others : AllAlike source source' ns ns') :
    Commented source source' p (.block head body :: ns) (.block head' body' :: ns')

/-- A comment in front of tokens stands for a comment in front of their nodes. -/
theorem Reads.comment {filtered : Bool} {t : Token} {ts : List Token} {ns : List Node}
    (h : Reads filtered ts ns) (ht : t.kind = .comment) :
    Reads filtered (t :: ts) (.comment t.place t.value :: ns) := by
  refine .leaf (by simp [Reading.leaf?, ht]) ?_
  rw [filteredAfter_cons (by simp [ht])]
  simpa [filteredAfter] using h

section

variable {a b text : String}

/-- The nodes of tokens that stand in front are alike when something else follows. -/
theorem Reads.alike_front {filtered : Bool} {ts : List Token} {ns : List Node}
    (h : Reads filtered ts ns) (hstart : ∀ t ∈ ts, t.start ≤ a.toList.length) (c c' : String) :
    AllAlike (a ++ c) (a ++ c') ns ns := by
  have hmoved : List.Forall₂ (Token.Moved a.toList.length 0 0) ts ts :=
    List.forall₂_same.2 fun t ht =>
      ⟨rfl, rfl, rfl, rfl, ⟨t.start, hstart t ht, rfl, rfl⟩, t.stop, rfl, rfl⟩
  have hboth : ∃ ns', Reads filtered ts ns' ∧ AllAlike ("" ++ a ++ c) ("" ++ a ++ c') ns ns' :=
    h.moved hmoved
  obtain ⟨ns', hns', halike⟩ := hboth
  obtain rfl := h.unique hns'
  rwa [String.empty_append] at halike

/-- The nodes of tokens that stand behind are alike when something is put in front of them. -/
theorem Reads.alike_behind {filtered : Bool} {ts ts' : List Token} {ns : List Node}
    (h : Reads filtered ts ns)
    (hmoved : List.Forall₂ (Token.Moved b.toList.length a.toList.length
      (a.toList.length + text.toList.length)) ts ts') :
    ∃ ns', Reads filtered ts' ns' ∧ AllAlike (a ++ b) (a ++ (text ++ b)) ns ns' := by
  have hboth : ∃ ns', Reads filtered ts' ns' ∧
      AllAlike (a ++ b ++ "") (a ++ text ++ b ++ "") ns ns' :=
    h.moved (by rwa [String.toList_append, List.length_append])
  obtain ⟨ns', hns', halike⟩ := hboth
  rw [String.append_empty, String.append_empty, String.append_assoc] at halike
  exact ⟨ns', hns', halike⟩

/-- The nodes of the tokens with a comment put in front of all of them, or into the first text. -/
theorem Reads.commented_here {filtered : Bool} {ns : List Node} {rest rest' : List Token}
    {e : Delimiters} {spot : Position} (spot' : Position) {u v : List Char} {comment : Token}
    (h : Reads filtered (textToken e spot (u ++ v) ++ rest) ns)
    (hrest : List.Forall₂ (Token.Moved b.toList.length a.toList.length
      (a.toList.length + text.toList.length)) rest rest')
    (hcomment : comment.kind = .comment) :
    ∃ ns', Reads filtered
        (textToken e spot u ++ comment :: (textToken e spot' v ++ rest')) ns' ∧
      Commented (a ++ b) (a ++ (text ++ b)) a.toList.length ns ns' := by
  obtain ⟨ms, hms, rfl⟩ := reads_textToken_append_iff.1 h
  obtain ⟨ms', hms', halike⟩ := hms.alike_behind hrest
  have hlater : Reads filtered (textToken e spot' v ++ rest') (textNodes spot'.place v ++ ms') :=
    reads_textToken_append_iff.2 ⟨ms', hms', rfl⟩
  exact ⟨_, reads_textToken_append_iff.2 ⟨_, hlater.comment hcomment, rfl⟩, .here halike⟩

/-- **The nodes of the tokens with a comment put in.**

**Proof sketch.** Induction on the grammar of the nodes. What ends in front of the comment stays,
and what begins behind it stands further on; a section of which the tags are on both sides is around
the offset. -/
theorem Reads.commented {filtered : Bool} {tokens : List Token} {ns : List Node}
    (h : Reads filtered tokens ns) {init rest rest' : List Token} {e : Delimiters}
    {spot spot' : Position} {u v : List Char} {comment : Token}
    (htokens : tokens = init ++ (textToken e spot (u ++ v) ++ rest))
    (hinit : ∀ t ∈ init, t.stop ≤ a.toList.length ∧ t.start ≤ a.toList.length)
    (hrest : List.Forall₂ (Token.Moved b.toList.length a.toList.length
      (a.toList.length + text.toList.length)) rest rest')
    (hcomment : comment.kind = .comment) :
    ∃ ns', Reads filtered
        (init ++ (textToken e spot u ++ comment :: (textToken e spot' v ++ rest'))) ns' ∧
      Commented (a ++ b) (a ++ (text ++ b)) a.toList.length ns ns' := by
  induction h generalizing init rest rest' with
  | nil =>
    obtain ⟨rfl, htext⟩ := List.append_eq_nil_iff.1 htokens.symm
    exact Reads.commented_here spot' (htext ▸ .nil) hrest hcomment
  | @leaf filtered t n ts ns node after ih =>
    cases init with
    | nil => exact Reads.commented_here spot' (htokens ▸ .leaf node after) hrest hcomment
    | cons t' init =>
      rw [List.cons_append, List.cons.injEq] at htokens
      obtain ⟨rfl, htokens⟩ := htokens
      rw [List.forall_mem_cons] at hinit
      obtain ⟨ns', hns', hothers⟩ := ih htokens hinit.2 hrest
      have hfirst : AllAlike (a ++ b) (a ++ (text ++ b)) [n] [n] :=
        (Reads.leaf node .nil).alike_front (by simpa using hinit.1.2) b (text ++ b)
      cases hfirst with
      | cons hfirst _ => exact ⟨n :: ns', .leaf node hns', .behind hfirst hothers⟩
  | @block filtered opener closer name filters others inner after body ns opens closes names same
      within behind ihin ihout =>
    cases init with
    | nil =>
      exact Reads.commented_here spot' (htokens ▸ .block opens closes names same within behind)
        hrest hcomment
    | cons t' init =>
      rw [List.cons_append, List.cons.injEq] at htokens
      obtain ⟨rfl, htokens⟩ := htokens
      rw [List.forall_mem_cons] at hinit
      have hcloser : closer ∉ textToken e spot (u ++ v) := fun hmem =>
        closes.ne_text (kind_of_mem_textToken hmem)
      -- The closing tag stands behind the comment, or in front of it.
      rcases stretch_cases hcloser htokens.symm with ⟨mid, rfl, rfl⟩ | ⟨mid, rfl, rfl⟩
      · obtain ⟨mid', tail, rfl, hmid, htail⟩ := forall₂_append_left hrest
        obtain ⟨closer', after', hclosing, hafter, rfl⟩ := List.forall₂_cons_left_iff.1 htail
        obtain ⟨body', hbody', hbodies⟩ := ihin rfl hinit.2 hmid
        obtain ⟨ns', hns', hothers⟩ := behind.alike_behind hafter
        have hfiltered : filteredAfter filtered
            (init ++ (textToken e spot (u ++ v) ++ mid)) = filteredAfter filtered
              (init ++ (textToken e spot u ++ comment :: (textToken e spot' v ++ mid'))) := by
          simp only [filteredAfter_append, filteredAfter_textToken,
            filteredAfter_cons (t := comment) (by simp [hcomment]), filteredAfter_of_moved hmid]
        rw [hfiltered] at hns'
        obtain ⟨i, -, hi, -⟩ := hclosing.start
        refine ⟨.block (sectionOf opener closer' name filters) body' :: ns', ?_,
          .inside rfl rfl rfl hinit.1.1 ?_ hbodies hothers⟩
        · have hcloses : (Reading.mk closer' filtered).Closes := hclosing.kind.trans closes
          have hreads := Reads.block opens hcloses names (hclosing.value ▸ same) hbody' hns'
          simpa using hreads
        · show a.toList.length ≤ closer.start
          omega
      · simp only [List.forall_mem_append, List.forall_mem_cons] at hinit
        obtain ⟨ns', hns', hothers⟩ := ihout rfl hinit.2.2.2 hrest
        have hfirst : AllAlike (a ++ b) (a ++ (text ++ b))
            [.block (sectionOf opener closer name filters) body]
            [.block (sectionOf opener closer name filters) body] := by
          refine (Reads.block opens closes names same within .nil).alike_front ?_ b (text ++ b)
          simp only [List.forall_mem_cons, List.forall_mem_append]
          exact ⟨hinit.1.2, fun t ht => (hinit.2.1 t ht).2, hinit.2.2.1.2, by simp⟩
        cases hfirst with
        | cons hfirst _ =>
          refine ⟨_, ?_, .behind hfirst hothers⟩
          have hreads := Reads.block opens closes names same within hns'
          simpa using hreads

end

/-! ## Lambdas around the comment -/

/-- A condition on sessions holds whenever an action is run for one of the items. -/
def Throughout (act : Action Output) (cond : Session → Prop) : List Value → Session → Prop
  | [], _ => True
  | item :: items, s =>
    cond (s.framed (item :: s.frames)) ∧
      ∀ out s', withFrame item act s = .ok out s' → Throughout act cond items s'

mutual

/-- When the node is rendered in the session, no lambda is called for a section around the
offset. -/
def LambdaFreeNode (below : Below) (t : Template) (p : Nat) : Node → Session → Prop
  | .block head body, s =>
    head.start ≤ p → p ≤ head.stop → ∀ v s',
      findFiltered below ⟨head.name, head.filters, head.place, t.name, t.source⟩ s = .ok v s' →
        if head.inverted then v.truth = .ok false → LambdaFreeNodes below t p body s'
        else v.isLambda = false ∧ (v.truth = .ok true →
          Throughout (renderNodes below t body) (LambdaFreeNodes below t p body) v.items s')
  | .text _ _, _ | .interpolation _ _ _ _ _, _ | .inclusion _ _ _, _ | .comment _ _, _
  | .delimiterChange _ _, _ | .pragma _ _, _ | .flawed _, _ => True

/-- **No lambda is called for a section around the offset** when the nodes are rendered in the
session. -/
def LambdaFreeNodes (below : Below) (t : Template) (p : Nat) : List Node → Session → Prop
  | [], _ => True
  | n :: ns, s =>
    LambdaFreeNode below t p n s ∧
      ∀ out s', renderNode below t n s = .ok out s' → LambdaFreeNodes below t p ns s'

end

/-- An action with one more frame on the stack. -/
theorem withFrame_eq_ok_iff {α : Type} {act : Action α} {frame : Value} {s s' : Session} {a : α} :
    withFrame frame act s = .ok a s' ↔ ∃ s₁, act (s.framed (frame :: s.frames)) = .ok a s₁ ∧
      s' = s₁.framed s₁.frames.tail := by
  unfold withFrame
  cases hact : act (s.framed (frame :: s.frames)) with
  | ok b s₁ =>
    rw [Session.framed] at hact
    rw [hact]
    constructor
    · rintro ⟨⟩
      exact ⟨s₁, rfl, rfl⟩
    · rintro ⟨_, ⟨⟩, rfl⟩
      rfl
  | error e s₁ =>
    rw [Session.framed] at hact
    rw [hact]
    simp

/-- Items render as before if one item does. -/
theorem renderItems_of_throughout {act act' : Action Output} {cond : Session → Prop}
    (h : ∀ s out s', cond s → act s = .ok out s' → act' s = .ok out s') {items : List Value}
    {s s' : Session} {out : Output} (hcond : Throughout act cond items s)
    (hrun : renderItems act items s = .ok out s') : renderItems act' items s = .ok out s' := by
  induction items generalizing s s' out with
  | nil => exact hrun
  | cons item items ih =>
    obtain ⟨hfirst, hothers⟩ := hcond
    obtain ⟨first, s₁, hitem, hrest⟩ := bind_eq_ok_iff.1 hrun
    obtain ⟨others, s₂, hitems, hout⟩ := bind_eq_ok_iff.1 hrest
    obtain ⟨s₀, hact, hs₁⟩ := withFrame_eq_ok_iff.1 hitem
    have hitem' : withFrame item act' s = .ok first s₁ :=
      withFrame_eq_ok_iff.2 ⟨s₀, h _ _ _ hfirst hact, hs₁⟩
    exact bind_eq_ok_iff.2 ⟨first, s₁, hitem', bind_eq_ok_iff.2
      ⟨others, s₂, ih (hothers first s₁ hitem) hitems, hout⟩⟩

section

variable {below : Below} {t t' : Template} {p : Nat}

/-- A section around the comment renders as before if its nodes do and no lambda is called with
their text. -/
theorem renderSection_of_commented {head head' : Section} {body body' : List Node}
    (name : head'.name = head.name) (inverted : head'.inverted = head.inverted)
    (filters : head'.filters = head.filters)
    (hbody : ∀ s out s', LambdaFreeNodes below t p body s →
      renderNodes below t body s = .ok out s' → renderNodes below t' body' s = .ok out s')
    {s s' : Session} {out : Output} (hfree : LambdaFreeNode below t p (.block head body) s)
    (start_le : head.start ≤ p) (le_stop : p ≤ head.stop)
    (hrun : renderSection below t head (renderNodes below t body) s = .ok out s') :
    renderSection below t' head' (renderNodes below t' body') s = .ok out s' := by
  obtain ⟨v, s₁, hfind, hshow⟩ := bind_eq_ok_iff.1 hrun
  rw [LambdaFreeNode] at hfree
  have hcond := hfree start_le le_stop v s₁ hfind
  have hfind' : findFiltered below ⟨head'.name, head'.filters, head'.place, t'.name, t'.source⟩ s =
      .ok v s₁ := by
    rw [name, filters]
    exact (findFiltered_refines below head.name head.filters).ok s v s₁ hfind
  refine bind_eq_ok_iff.2 ⟨v, s₁, hfind', ?_⟩
  rw [inverted]
  cases hinverted : head.inverted with
  | true =>
    simp only [hinverted, if_true] at hcond hshow ⊢
    obtain ⟨shown, s₂, hlift, hnodes⟩ := bind_eq_ok_iff.1 hshow
    refine bind_eq_ok_iff.2 ⟨shown, s₂, hlift, ?_⟩
    obtain ⟨htruth, rfl⟩ := liftFault_eq_ok_iff.1 hlift
    cases shown with
    | true => exact hnodes
    | false => exact hbody _ _ _ (hcond htruth) hnodes
  | false =>
    simp only [hinverted, Bool.false_eq_true, if_false] at hcond hshow ⊢
    obtain ⟨hplain, hitems⟩ := hcond
    simp only [hplain, Bool.false_eq_true, if_false] at hshow ⊢
    obtain ⟨shown, s₂, hlift, hnodes⟩ := bind_eq_ok_iff.1 hshow
    refine bind_eq_ok_iff.2 ⟨shown, s₂, hlift, ?_⟩
    obtain ⟨htruth, rfl⟩ := liftFault_eq_ok_iff.1 hlift
    cases shown with
    | true => exact renderItems_of_throughout hbody (hitems htruth) hnodes
    | false => exact hnodes

/-- **Nodes with a comment put in render as before**, whenever no lambda is called for a section
around the comment.

**Proof sketch.** Induction on where the comment is put in. A comment renders to nothing, and the
two parts of a text to the text. -/
theorem Commented.refines (hsibling : t.Sibling t') {ns ns' : List Node}
    (h : Commented t.source t'.source p ns ns') {s s' : Session} {out : Output}
    (hfree : LambdaFreeNodes below t p ns s) (hrun : renderNodes below t ns s = .ok out s') :
    renderNodes below t' ns' s = .ok out s' := by
  induction h generalizing s s' out with
  | @here place place' place'' spot u v value ns ns' others =>
    obtain ⟨first, s₁, rest, htext, hrest, rfl⟩ := renderNodes_append_eq_ok_iff.1 hrun
    rw [renderNodes_textNodes] at htext
    obtain ⟨rfl, rfl⟩ := EStateM.Result.ok.inj htext
    have hrest' := (renderNodes_refines below hsibling others).ok _ _ _ hrest
    refine renderNodes_append_eq_ok_iff.2 ⟨_, s, _, renderNodes_textNodes _ _ _ _ _,
      bind_eq_ok_iff.2 ⟨.empty, s, rfl, bind_eq_ok_iff.2 ⟨_, s', renderNodes_append_eq_ok_iff.2
        ⟨_, s, _, renderNodes_textNodes _ _ _ _ _, hrest', rfl⟩, rfl⟩⟩, ?_⟩
    rw [Output.empty_append, ← Output.append_assoc, Output.some_append_some, String.ofList_append]
  | behind first _ ih =>
    obtain ⟨out₁, s₁, hfirst, hrest⟩ := bind_eq_ok_iff.1 hrun
    obtain ⟨out₂, s₂, hothers, hout⟩ := bind_eq_ok_iff.1 hrest
    exact bind_eq_ok_iff.2 ⟨out₁, s₁, (renderNode_refines below hsibling first).ok _ _ _ hfirst,
      bind_eq_ok_iff.2 ⟨out₂, s₂, ih (hfree.2 _ _ hfirst) hothers, hout⟩⟩
  | inside name inverted filters start_le le_stop _ others ih =>
    obtain ⟨out₁, s₁, hfirst, hrest⟩ := bind_eq_ok_iff.1 hrun
    obtain ⟨out₂, s₂, hothers, hout⟩ := bind_eq_ok_iff.1 hrest
    refine bind_eq_ok_iff.2 ⟨out₁, s₁, ?_, bind_eq_ok_iff.2
      ⟨out₂, s₂, (renderNodes_refines below hsibling others).ok _ _ _ hothers, hout⟩⟩
    exact renderSection_of_commented name inverted filters (fun _ _ _ => ih) hfree.1 start_le
      le_stop hfirst

end

/-! ## Templates -/

/-- No lambda is called for a section around the offset when the template is rendered with the
data. -/
def Template.LambdaFreeAt (t : Template) (p : Nat) (data : Value) (locals : Entries)
    (s : Session) : Prop :=
  LambdaFreeNodes ground t p t.tree.body (s.framed (framesFor (s.engineOf? t) data locals))

/-- **Putting in a line with a comment changes nothing.** Let a line start at the end of the first
part of a source, outside of tags, and let a line be put in there that holds nothing but a comment
under the delimiters in effect. Then the new source has a tree; and for all data, local variables,
sessions and engines, if the template renders and no lambda is called for a section around the line,
then the new template renders to the same, and leaves the same session behind.

**Proof sketch.** The scanner drops the line but for its comment, and finds all else as before
(`Scanned.insert_commentLine`). So a comment is put into the tree (`Reads.commented`), which renders
to nothing (`Commented.refines`). -/
theorem render_commentLine {t : Template} {a b : String} {tokens : List Token}
    (hsource : t.source = a ++ b) (htokens : tokenize t.source t.name .usual = .ok tokens)
    (htree : parse t.source t.name .usual = .ok t.tree)
    (hline : a = "" ∨ a.toList.getLast? = some '\n')
    (houtside : OutsideTags tokens a.toList.length)
    (line : CommentLine (Delimiters.usual.at tokens a.toList.length)) (name : Value) :
    ∃ tree, parse (a ++ (String.ofList line.text ++ b)) name .usual = .ok tree ∧
      ∀ t' : Template, t.Sibling t' → t'.source = a ++ (String.ofList line.text ++ b) →
        t'.tree = tree → ∀ data locals s s' x, t.LambdaFreeAt a.toList.length data locals s →
          t.render data locals s = .ok x s' → t'.render data locals s = .ok x s' := by
  have hrun := tokenize_eq_ok_iff.1 htokens
  rw [hsource, String.toList_append] at hrun
  have hline' : a.toList = [] ∨ a.toList.getLast? = some '\n' :=
    hline.imp_left fun h => by rw [h]; rfl
  obtain ⟨init, e, spot, spot', u, v, rest, rest', comment, hcomment, rfl, hrun', hinit, hrest⟩ :=
    hrun.insert_commentLine Delimiters.isPlain_usual hline' houtside line
  -- The tree of the new source.
  have hreads : Reads false (init ++ textToken e spot (u ++ v) ++ rest) t.tree.body := by
    obtain ⟨tokens', htokens', hreads⟩ := exists_parse_iff.1 ⟨t.tree, htree, rfl⟩
    rwa [Except.ok.inj (htokens.symm.trans htokens')]
  rw [List.append_assoc] at hreads
  have hboth : ∃ ns', Reads false
      (init ++ (textToken e spot u ++ comment :: (textToken e spot' v ++ rest'))) ns' ∧
        Commented (a ++ b) (a ++ (String.ofList line.text ++ b)) a.toList.length t.tree.body ns' :=
    hreads.commented rfl hinit (by rwa [String.toList_ofList]) hcomment
  obtain ⟨ns', hreads', hcommented⟩ := hboth
  have htokens' : tokenize (a ++ (String.ofList line.text ++ b)) name .usual =
      .ok (init ++ (textToken e spot u ++ comment :: (textToken e spot' v ++ rest'))) := by
    rw [tokenize_eq_ok_iff, String.toList_append, String.toList_append, String.toList_ofList,
      ← List.append_assoc init]
    exact hrun'
  obtain ⟨tree, hparse, hbody⟩ := exists_parse_iff.2 ⟨_, htokens', hreads'⟩
  refine ⟨tree, hparse, fun t' hsibling hsource' htree' data locals s s' x hfree hrender => ?_⟩
  -- What it renders to.
  obtain ⟨s₁, hnodes, rfl⟩ := Template.render_eq_ok_iff.1 hrender
  refine Template.render_eq_ok_iff.2 ⟨s₁, ?_, rfl⟩
  rw [framesFor_of_settings rfl hsibling.engine data locals, htree', hbody]
  rw [← hsource, ← hsource'] at hcommented
  exact hcommented.refines hsibling hfree hnodes

/-- A section with its opening tag on a line of its own. -/
def sectionSource : String := "\x7b\x7b#a\x7d\x7d\n" ++ "x\x7b\x7b/a\x7d\x7d"

/-- A comment is put into it, behind the opening tag. -/
theorem render_commentLine_in_section : ∃ t : Template,
    t.source = "\x7b\x7b#a\x7d\x7d\n" ++ (" \x7b\x7b!b\x7d\x7d\n" ++ "x\x7b\x7b/a\x7d\x7d") ∧
      parse t.source .null .usual = .ok t.tree ∧
        t.render .null [(.text "a", .text "b")] default = .ok "x" default := by
  let opener : Token := ⟨.sectionStart, "a", ⟨1, 0⟩, 0, 6, .usual, ""⟩
  let inner : Token := ⟨.text, "x", ⟨2, 0⟩, 7, 8, .usual, ""⟩
  let closer : Token := ⟨.sectionEnd, "a", ⟨2, 1⟩, 8, 14, .usual, ""⟩
  have htokens : tokenize sectionSource .null .usual = .ok [opener, inner, closer] :=
    eq_ok_of_toOption_eq_some (by decide +kernel)
  have hreads : Reads false (opener :: ([inner] ++ closer :: [])) _ :=
    .block (.inl rfl) (by rfl) rfl rfl (.leaf rfl .nil) .nil
  obtain ⟨tree, hparse, hbody⟩ := exists_parse_iff.2 ⟨_, htokens, hreads⟩
  let t : Template := { (default : Template) with name := .null, source := sectionSource, tree }
  let line : CommentLine (Delimiters.usual.at [opener, inner, closer] 7) :=
    ⟨[' '], ['b'], [], by simp [Text.isMargin], by simp, by decide⟩
  obtain ⟨tree', hparse', hrender⟩ := render_commentLine (t := t) (a := "\x7b\x7b#a\x7d\x7d\n")
    (b := "x\x7b\x7b/a\x7d\x7d") rfl htokens hparse (.inr (by decide)) (by decide) line .null
  have htext : String.ofList line.text = " \x7b\x7b!b\x7d\x7d\n" := by decide
  let t' : Template :=
    { t with
      source := "\x7b\x7b#a\x7d\x7d\n" ++ (String.ofList line.text ++ "x\x7b\x7b/a\x7d\x7d")
      tree := tree' }
  -- The section is shown for a text.
  let s : Session := { (default : Session) with frames := [.dict [(.text "a", .text "b")]] }
  have hfind : findFiltered ground ⟨"a", [], ⟨1, 0⟩, .null, sectionSource⟩ s = .ok (.text "b") s := by
    unfold findFiltered findName
    rw [if_neg (by decide)]
    rfl
  have hfree : t.LambdaFreeAt 7 .null [(.text "a", .text "b")] default := by
    show LambdaFreeNodes ground t 7 tree.body s
    rw [hbody]
    refine ⟨fun _ _ v s' hv => ?_, fun _ _ _ => trivial⟩
    obtain ⟨rfl, rfl⟩ := EStateM.Result.ok.inj (hfind.symm.trans hv)
    exact ⟨rfl, fun _ => ⟨⟨trivial, fun _ _ _ => trivial⟩, fun _ _ _ => trivial⟩⟩
  have hrun : t.render .null [(.text "a", .text "b")] default = .ok "x" default := by
    refine Template.render_eq_ok_iff.2 ⟨s, ?_, rfl⟩
    show renderNodes ground t tree.body s = _
    rw [hbody]
    refine bind_eq_ok_iff.2 ⟨some "x", s, ?_, rfl⟩
    exact (renderSection_eq_renderItems hfind rfl rfl rfl).trans rfl
  exact ⟨t', congrArg (fun text => "\x7b\x7b#a\x7d\x7d\n" ++ (text ++ "x\x7b\x7b/a\x7d\x7d")) htext,
    hparse', hrender t' ⟨rfl, rfl⟩ rfl rfl _ _ _ _ _ hfree hrun⟩

end Mustache
