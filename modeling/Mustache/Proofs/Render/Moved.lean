import Mustache.Proofs.Render.Boundary
import Mustache.Proofs.Tree.Reads

/-!
# Tokens that stand elsewhere

The same tokens may stand in two sources, each at its own offset of a stretch that the sources have
in common. Then the nodes that they stand for are alike: they differ in places only, and the texts
between the tags of their sections are the same.

## Main definitions

* `Mustache.Token.Moved` — a token that stands elsewhere.

## Main results

* `Mustache.Reads.moved` — the nodes of tokens that stand elsewhere are alike.
* `Mustache.renderNodes_eq_ok_iff_of_alike` — nodes that are alike render to the same, both ways.
-/

namespace Mustache

/-! ## Common stretches -/

/-- A slice of a stretch that two sources may have in common. -/
theorem sliceOf_within (front back : String) {mid : String} {start stop : Nat}
    (h : stop ≤ mid.toList.length) :
    sliceOf (front ++ mid ++ back) (start + front.toList.length) (stop + front.toList.length) =
      sliceOf mid start stop := by
  rw [String.append_assoc, sliceOf_append_right, sliceOf_append_left h]

/-- A token of a stretch that begins at the offset `i` of one source and at the offset `j` of
another one, as a token of both. -/
structure Token.Moved (length i j : Nat) (t t' : Token) : Prop where
  kind : t'.kind = t.kind
  value : t'.value = t.value
  delims : t'.delims = t.delims
  indent : t'.indent = t.indent
  start : ∃ u ≤ length, t.start = u + i ∧ t'.start = u + j
  stop : ∃ u, t.stop = u + i ∧ t'.stop = u + j

/-- A token some characters further on stands in a stretch that begins there. -/
theorem Token.moved_shift {t : Token} {length : Nat} (h : t.start ≤ length) (k l : Nat) :
    t.Moved length 0 k (t.shift k l) :=
  ⟨rfl, rfl, rfl, rfl, ⟨t.start, h, rfl, rfl⟩, ⟨t.stop, rfl, rfl⟩⟩

/-! ## Nodes -/

section

variable {front back front' back' mid : String}

/-- A leaf that stands elsewhere. -/
theorem Token.Moved.leaf? {filtered : Bool} {length i j : Nat} {t t' : Token} {n : Node}
    (h : t.Moved length i j t') (hn : (Reading.mk t filtered).leaf? = some n)
    (source source' : String) :
    ∃ n', (Reading.mk t' filtered).leaf? = some n' ∧ n.Alike source source' n' := by
  simp only [Reading.leaf?_eq_some_iff] at hn ⊢
  cases hn with
  | text hk => exact ⟨_, .text (h.kind.trans hk), h.value ▸ .text _ _ _⟩
  | comment hk => exact ⟨_, .comment (h.kind.trans hk), h.value ▸ .comment _ _ _⟩
  | pragma hk => exact ⟨_, .pragma (h.kind.trans hk), h.value ▸ .pragma _ _ _⟩
  | inclusion hk =>
    exact ⟨_, .inclusion (h.kind.trans hk), h.value ▸ h.indent ▸ .inclusion _ _ _ _⟩
  | interpolation hk names =>
    refine ⟨_, .interpolation (hk.imp h.kind.trans h.kind.trans) (h.value ▸ names), ?_⟩
    rw [show t'.kind = t.kind from h.kind, show t'.delims = t.delims from h.delims]
    exact .interpolation _ _ _ _ _ _
  | delimiterChange hk words =>
    exact ⟨_, .delimiterChange (h.kind.trans hk) (h.value ▸ words), .delimiterChange _ _ _⟩

theorem Token.Moved.isFiltersPragma_iff {length i j : Nat} {t t' : Token}
    (h : t.Moved length i j t') : t'.IsFiltersPragma ↔ t.IsFiltersPragma :=
  isFiltersPragma_congr h.kind fun _ => h.value

/-- Filters are available after tokens that stand elsewhere if they are after these tokens. -/
theorem filteredAfter_of_moved {length i j : Nat} {ts ts' : List Token}
    (h : List.Forall₂ (Token.Moved length i j) ts ts') (filtered : Bool) :
    filteredAfter filtered ts' = filteredAfter filtered ts :=
  filteredAfter_of_forall₂ (fun _ _ h => h.isFiltersPragma_iff) h filtered

/-- Standing elsewhere carries over from tokens to nodes. The text between the tags of a section
lies in the common stretch, so that it is the same slice of both sources. -/
theorem carries_moved :
    Carries (Token.Moved mid.toList.length front.toList.length front'.toList.length)
      (Node.Alike (front ++ mid ++ back) (front' ++ mid ++ back'))
      (AllAlike (front ++ mid ++ back) (front' ++ mid ++ back')) where
  kind h := h.kind
  value h _ _ _ := h.value
  leaf h hn := h.leaf? hn _ _
  nil := .nil
  cons first others := .cons first others
  block {opener opener' closer closer'} name filters body body' hopener hcloser hbodies := by
    refine .block ⟨rfl, ?_, rfl, hopener.delims, ?_⟩ hbodies
    · show (opener'.kind == .invertedStart) = (opener.kind == .invertedStart)
      rw [hopener.kind]
    · obtain ⟨a, ha, ha'⟩ := hopener.stop
      obtain ⟨b, hb, hc, hc'⟩ := hcloser.start
      show sliceOf (front' ++ mid ++ back') opener'.stop closer'.start =
        sliceOf (front ++ mid ++ back) opener.stop closer.start
      rw [ha, ha', hc, hc', sliceOf_within front' back' hb, sliceOf_within front back hb]

/-- **The nodes of tokens that stand elsewhere are alike.** -/
theorem Reads.moved {filtered : Bool} {ts ts' : List Token} {ns : List Node}
    (h : Reads filtered ts ns)
    (hmoved : List.Forall₂
      (Token.Moved mid.toList.length front.toList.length front'.toList.length) ts ts') :
    ∃ ns', Reads filtered ts' ns' ∧
      AllAlike (front ++ mid ++ back) (front' ++ mid ++ back') ns ns' :=
  h.carry carries_moved hmoved

end

/-- Tokens stand for no other nodes. -/
theorem Reads.unique {filtered : Bool} {ts : List Token} {ns ms : List Node}
    (h : Reads filtered ts ns) (h' : Reads filtered ts ms) : ns = ms := by
  have hb : (Builder.mk [] [] (if filtered then [filtersPragma] else [])).filtersActive =
      filtered := by
    cases filtered with
    | false => rfl
    | true => simp [Builder.filtersActive]
  have hsame := (h.steps hb).symm.trans (h'.steps hb)
  simpa [Builder.extend] using hsame

/-! ## Alikeness both ways -/

mutual

/-- A node is alike to one that is alike to it. -/
theorem Node.Alike.symm {source source' : String} {n n' : Node} :
    n.Alike source source' n' → n'.Alike source' source n
  | .text _ _ _ => .text _ _ _
  | .interpolation _ _ _ _ _ _ => .interpolation _ _ _ _ _ _
  | .block heads bodies =>
    .block ⟨heads.name.symm, heads.inverted.symm, heads.filters.symm, heads.delims.symm,
      heads.rawBody.symm⟩ bodies.symm
  | .inclusion _ _ _ _ => .inclusion _ _ _ _
  | .comment _ _ _ => .comment _ _ _
  | .delimiterChange _ _ _ => .delimiterChange _ _ _
  | .pragma _ _ _ => .pragma _ _ _
  | .flawed _ => .flawed _

/-- Nodes are alike to those that are alike to them. -/
theorem AllAlike.symm {source source' : String} {ns ns' : List Node} :
    AllAlike source source' ns ns' → AllAlike source' source ns' ns
  | .nil => .nil
  | .cons first others => .cons first.symm others.symm

end

theorem Template.Sibling.symm {t t' : Template} (h : t.Sibling t') : t'.Sibling t :=
  ⟨h.engine.symm, h.escaping.symm⟩

/-- Nodes that are alike render to the same, and if one list of them renders, so does the other. -/
theorem renderNodes_eq_ok_iff_of_alike (below : Below) {t t' : Template} (h : t.Sibling t')
    {ns ns' : List Node} (halike : AllAlike t.source t'.source ns ns') {s s' : Session}
    {out : Output} :
    renderNodes below t ns s = .ok out s' ↔ renderNodes below t' ns' s = .ok out s' :=
  ⟨(renderNodes_refines below h halike).ok s out s',
    (renderNodes_refines below h.symm halike.symm).ok s out s'⟩

end Mustache
