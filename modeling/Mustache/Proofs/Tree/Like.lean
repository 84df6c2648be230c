import Mustache.Proofs.Render.Moved
import Mustache.Proofs.Tree.Slice

/-!
# Tokens that say alike

Tokens may differ in what does not show when data without callables is rendered: in their places,
in remarks, and in the blanks of a delimiter change. The nodes that they stand for then differ in
the same way, and the texts among them are related as the texts among the tokens are. And in a list
of tokens a stretch may be replaced by another one; around it the nodes stay as they are.

## Main definitions

* `Mustache.Token.Like` — tokens that say the same, with related texts.
* `Mustache.Node.Like`, `Mustache.AllLike` — nodes that say the same, with related texts.

## Main results

* `Mustache.Reads.like` — such tokens stand for such nodes.
* `Mustache.Reads.append` — the nodes of two token lists.
* `Mustache.Reads.replace` — a stretch of tokens replaced by another one.
-/

namespace Mustache

variable {V : String → String → Prop}

/-! ## Tokens and nodes -/

/-- **Tokens that say the same**: texts are related by `V`, and all other tokens differ in their
places only, or in what shows nowhere. -/
structure Token.Like (V : String → String → Prop) (t t' : Token) : Prop where
  kind : t'.kind = t.kind
  text : t.kind = .text → V t.value t'.value
  value : t.kind ≠ .text → t.kind ≠ .comment → t.kind ≠ .delimiterChange → t'.value = t.value
  words : t.kind = .delimiterChange → Text.words t'.value.toList = Text.words t.value.toList
  indent : t'.indent = t.indent
  /-- As lines that are included stand behind their indents, indents are related like texts. -/
  margin : V t.indent t.indent

/-- Tokens say the same the other way round. -/
theorem Token.Like.symm {t t' : Token} (h : t.Like V t') : t'.Like (fun x y => V y x) t where
  kind := h.kind.symm
  text hk := h.text (h.kind.symm.trans hk)
  value h₁ h₂ h₃ := by
    rw [h.kind] at h₁ h₂ h₃
    exact (h.value h₁ h₂ h₃).symm
  words hk := (h.words (h.kind.symm.trans hk)).symm
  indent := h.indent.symm
  margin := by
    rw [h.indent]
    exact h.margin

mutual

/-- **Nodes that say the same**, with texts that are related by `V`. -/
inductive Node.Like (V : String → String → Prop) : Node → Node → Prop
  | text (place place' : Place) {value value' : String} (related : V value value') :
    Node.Like V (.text place value) (.text place' value')
  | interpolation (place place' : Place) (name : String) (escaped : Bool) (filters : List String)
      (delims delims' : Delimiters) :
    Node.Like V (.interpolation place name escaped filters delims)
      (.interpolation place' name escaped filters delims')
  | block {head head' : Section} {body body' : List Node} (name : head'.name = head.name)
      (inverted : head'.inverted = head.inverted) (filters : head'.filters = head.filters)
      (bodies : AllLike V body body') : Node.Like V (.block head body) (.block head' body')
  | inclusion (place place' : Place) (name : String) {indent : String} (margin : V indent indent) :
    Node.Like V (.inclusion place name indent) (.inclusion place' name indent)
  | comment (place place' : Place) (value value' : String) :
    Node.Like V (.comment place value) (.comment place' value')
  | delimiterChange (place place' : Place) (delims delims' : Delimiters) :
    Node.Like V (.delimiterChange place delims) (.delimiterChange place' delims')
  | pragma (place place' : Place) (name : String) :
    Node.Like V (.pragma place name) (.pragma place' name)

/-- Nodes that say the same, one by one. -/
inductive AllLike (V : String → String → Prop) : List Node → List Node → Prop
  | nil : AllLike V [] []
  | cons {n n' : Node} {ns ns' : List Node} (first : n.Like V n') (others : AllLike V ns ns') :
    AllLike V (n :: ns) (n' :: ns')

end

/-! ## The nodes of tokens -/

/-- Tokens that say the same stand for nodes that say the same. -/
theorem Token.Like.leaf? {filtered : Bool} {t t' : Token} {n : Node} (h : t.Like V t')
    (hn : (Reading.mk t filtered).leaf? = some n) :
    ∃ n', (Reading.mk t' filtered).leaf? = some n' ∧ n.Like V n' := by
  simp only [Reading.leaf?_eq_some_iff] at hn ⊢
  cases hn with
  | text hk => exact ⟨_, .text (h.kind.trans hk), .text _ _ (h.text hk)⟩
  | comment hk => exact ⟨_, .comment (h.kind.trans hk), .comment _ _ _ _⟩
  | inclusion hk =>
    dsimp only at hk
    rw [← h.value (by simp [hk]) (by simp [hk]) (by simp [hk])]
    refine ⟨_, .inclusion (h.kind.trans hk), ?_⟩
    rw [show t'.indent = t.indent from h.indent]
    exact .inclusion _ _ _ h.margin
  | pragma hk =>
    dsimp only at hk
    rw [← h.value (by simp [hk]) (by simp [hk]) (by simp [hk])]
    exact ⟨_, .pragma (h.kind.trans hk), .pragma _ _ _⟩
  | interpolation hk names =>
    have hvalue : t'.value = t.value := by
      rcases hk with hk | hk <;> dsimp only at hk
      all_goals exact h.value (by simp [hk]) (by simp [hk]) (by simp [hk])
    refine ⟨_, .interpolation (hk.imp h.kind.trans h.kind.trans) (hvalue ▸ names), ?_⟩
    rw [show t'.kind = t.kind from h.kind]
    exact .interpolation _ _ _ _ _ _ _
  | delimiterChange hk words =>
    exact ⟨_, .delimiterChange (h.kind.trans hk) ((h.words hk).trans words),
      .delimiterChange _ _ _ _⟩

theorem Token.Like.isFiltersPragma_iff {t t' : Token} (h : t.Like V t') :
    t'.IsFiltersPragma ↔ t.IsFiltersPragma :=
  isFiltersPragma_congr h.kind fun hk => h.value (by simp [hk]) (by simp [hk]) (by simp [hk])

/-- Saying the same carries over from tokens to nodes. -/
theorem carries_like : Carries (Token.Like V) (Node.Like V) (AllLike V) where
  kind h := h.kind
  value h := h.value
  leaf h hn := h.leaf? hn
  nil := .nil
  cons first others := .cons first others
  block {opener opener' closer closer'} name filters body body' hopener _ hbodies := by
    refine .block rfl ?_ rfl hbodies
    show (opener'.kind == .invertedStart) = (opener.kind == .invertedStart)
    rw [hopener.kind]

/-- **Tokens that say the same stand for nodes that say the same.** -/
theorem Reads.like {filtered : Bool} {ts ts' : List Token} {ns : List Node}
    (h : Reads filtered ts ns) (hlike : List.Forall₂ (Token.Like V) ts ts') :
    ∃ ns', Reads filtered ts' ns' ∧ AllLike V ns ns' :=
  h.carry carries_like hlike

/-! ## Stretches -/

/-- The nodes of two token lists, one behind the other. -/
theorem Reads.append {filtered : Bool} {ts us : List Token} {ns ms : List Node}
    (h : Reads filtered ts ns) (h' : Reads (filteredAfter filtered ts) us ms) :
    Reads filtered (ts ++ us) (ns ++ ms) := by
  induction h with
  | nil => simpa [filteredAfter] using h'
  | @leaf filtered t n ts ns node _ ih =>
    refine .leaf node (ih ?_)
    rwa [← filteredAfter_append, List.singleton_append]
  | @block filtered opener closer name filters others inner rest body ns opens closes names same
      within _ _ ihout =>
    rw [filteredAfter_cons opens.ne_pragma, filteredAfter_append,
      filteredAfter_cons closes.ne_pragma] at h'
    have hreads := Reads.block opens closes names same within (ihout h')
    simpa using hreads

/-- Tokens without the pragma for filters do not make them available. -/
theorem filteredAfter_false {ts : List Token} (h : ∀ t ∈ ts, ¬ t.IsFiltersPragma) :
    filteredAfter false ts = false := by
  simpa [filteredAfter] using h

/-- **A stretch of tokens replaced by another one.** If at the front of any tokens the stretch can
be replaced, so that the nodes are related, it can be replaced anywhere, and the nodes are related.
The relation has to hold of nodes with the same node in front, and of sections around the nodes.

**Proof sketch.** Induction on the grammar of the nodes. As no closing tag is in the stretch, it is
either within the tags of a section or outside of them. -/
theorem Reads.replace {R : List Node → List Node → Prop}
    (hcons : ∀ n ns ns', R ns ns' → R (n :: ns) (n :: ns'))
    (hblock : ∀ head body body' ns, R body body' →
      R (.block head body :: ns) (.block head body' :: ns))
    {stretch stretch' : List Token} (hclosing : ∀ t ∈ stretch, t.kind ≠ .sectionEnd)
    (hno : ∀ t ∈ stretch, ¬ t.IsFiltersPragma) (hno' : ∀ t ∈ stretch', ¬ t.IsFiltersPragma)
    (hfront : ∀ rest ns, (∀ t ∈ rest, ¬ t.IsFiltersPragma) → Reads false (stretch ++ rest) ns →
      ∃ ns', Reads false (stretch' ++ rest) ns' ∧ R ns ns')
    {init rest : List Token} (hinit : ∀ t ∈ init, ¬ t.IsFiltersPragma)
    (hrest : ∀ t ∈ rest, ¬ t.IsFiltersPragma) {ns : List Node}
    (h : Reads false (init ++ (stretch ++ rest)) ns) :
    ∃ ns', Reads false (init ++ (stretch' ++ rest)) ns' ∧ R ns ns' := by
  generalize hfiltered : false = filtered at h
  generalize htokens : init ++ (stretch ++ rest) = tokens at h
  induction h generalizing init rest with
  | nil =>
    subst hfiltered
    obtain ⟨rfl, hnil⟩ := List.append_eq_nil_iff.1 htokens
    refine hfront rest _ hrest ?_
    rw [hnil]
    exact .nil
  | @leaf filtered t n ts ns node after ih =>
    subst hfiltered
    cases init with
    | nil =>
      rw [List.nil_append] at htokens
      exact hfront rest _ hrest (htokens ▸ .leaf node after)
    | cons t' init =>
      rw [List.cons_append, List.cons.injEq] at htokens
      obtain ⟨rfl, htokens⟩ := htokens
      rw [List.forall_mem_cons] at hinit
      have hone : filteredAfter false [t'] = false :=
        filteredAfter_false (by simpa using hinit.1)
      obtain ⟨ns', hns', hR⟩ := ih hinit.2 hrest hone.symm htokens
      exact ⟨n :: ns', .leaf node (hone.symm ▸ hns'), hcons n ns ns' hR⟩
  | @block filtered opener closer name filters others inner after body ns opens closes names same
      within behind ihin ihout =>
    subst hfiltered
    cases init with
    | nil =>
      rw [List.nil_append] at htokens
      exact hfront rest _ hrest (htokens ▸ .block opens closes names same within behind)
    | cons t' init =>
      rw [List.cons_append, List.cons.injEq] at htokens
      obtain ⟨rfl, htokens⟩ := htokens
      rw [List.forall_mem_cons] at hinit
      have hcloser : closer ∉ stretch := fun hmem => hclosing closer hmem closes
      -- The closing tag stands behind the stretch, or in front of it.
      rcases stretch_cases hcloser htokens with ⟨mid, rfl, rfl⟩ | ⟨mid, rfl, rfl⟩
      · simp only [List.forall_mem_append] at hrest
        obtain ⟨body', hbody', hR⟩ := ihin hinit.2 hrest.1 rfl rfl
        have hfalse : filteredAfter false (init ++ (stretch ++ mid)) = false :=
          filteredAfter_false (by
            simp only [List.forall_mem_append]
            exact ⟨hinit.2, hno, hrest.1⟩)
        have hfalse' : filteredAfter false (init ++ (stretch' ++ mid)) = false :=
          filteredAfter_false (by
            simp only [List.forall_mem_append]
            exact ⟨hinit.2, hno', hrest.1⟩)
        rw [hfalse, ← hfalse'] at behind
        refine ⟨.block (sectionOf t' closer name filters) body' :: ns, ?_, hblock _ _ _ _ hR⟩
        have hreads := Reads.block opens closes names same hbody' behind
        simpa using hreads
      · simp only [List.forall_mem_append, List.forall_mem_cons] at hinit
        have hfalse : filteredAfter false inner = false := filteredAfter_false hinit.2.1
        obtain ⟨ns', hns', hR⟩ := ihout hinit.2.2.2 hrest hfalse.symm rfl
        refine ⟨_, ?_, hcons _ _ _ hR⟩
        have hreads := Reads.block opens closes names same within hns'
        simpa using hreads

end Mustache
