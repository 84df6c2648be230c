import Mustache.Proofs.Render.Outline
import Mustache.Proofs.Tree.Like

/-!
# Outlines of nodes that say alike

Nodes that say the same with related texts write the same pieces with related texts, if what they
include does so. Nodes with the same texts write the same.

## Main definitions

* `Mustache.Piece.Like`, `Mustache.PiecesLike` — the same pieces with related texts.
* `Mustache.Outline.Like` — outlines that both have such pieces, or none.

## Main results

* `Mustache.PiecesLike.writeAll` — the same pieces with their values escaped.
* `Mustache.outlineNodes_like` — the outlines of nodes that say the same.
* `Mustache.outlineNodes_eq_of_like` — nodes with the same texts.
-/

namespace Mustache

/-! ## Pieces -/

mutual

/-- **The same piece**, with texts that are related by `V`. -/
inductive Piece.Like (V : String → String → Prop) : Piece → Piece → Prop
  | text {s s' : String} (related : V s s') : Piece.Like V (.text s) (.text s')
  | value (depth : Nat) (escaped : Bool) (s : String) :
    Piece.Like V (.value depth escaped s) (.value depth escaped s)
  | lines {indent : String} (margin : V indent indent) {ps ps' : List Piece}
    (pieces : PiecesLike V ps ps') : Piece.Like V (.lines indent ps) (.lines indent ps')

/-- The same pieces, one by one. -/
inductive PiecesLike (V : String → String → Prop) : List Piece → List Piece → Prop
  | nil : PiecesLike V [] []
  | cons {p p' : Piece} {ps ps' : List Piece} (first : p.Like V p') (others : PiecesLike V ps ps') :
    PiecesLike V (p :: ps) (p' :: ps')

end

/-- **Outlines that both have the same pieces**, with related texts, or both have none. -/
inductive Outline.Like (V : String → String → Prop) : Outline → Outline → Prop
  | none : Outline.Like V none none
  | some {ps ps' : List Piece} (pieces : PiecesLike V ps ps') :
    Outline.Like V (some ps) (some ps')

section

variable {V : String → String → Prop}

theorem PiecesLike.append {ps ps' qs qs' : List Piece} (h : PiecesLike V ps ps')
    (h' : PiecesLike V qs qs') : PiecesLike V (ps ++ qs) (ps' ++ qs') := by
  cases h with
  | nil => exact h'
  | cons first others => exact .cons first (others.append h')

mutual

theorem Piece.Like.eq {p p' : Piece} (h : p.Like Eq p') : p = p' := by
  cases h with
  | text related => rw [related]
  | value depth escaped s => rfl
  | lines margin pieces => rw [pieces.eq]

/-- The same pieces with the same texts. -/
theorem PiecesLike.eq {ps ps' : List Piece} (h : PiecesLike Eq ps ps') : ps = ps' := by
  cases h with
  | nil => rfl
  | cons first others => rw [first.eq, others.eq]

end

/-! ## Escaping -/

mutual

theorem Piece.Like.write {p p' : Piece} (h : p.Like V p') (escaping : Escaping) (τ : Tally) :
    Option.Rel (fun r r' => r.1.Like V r'.1 ∧ r'.2 = r.2) (p.write escaping τ)
      (p'.write escaping τ) := by
  cases h with
  | text related => exact .some ⟨.text related, rfl⟩
  | value depth escaped s =>
    rw [Piece.write]
    cases (if escaped then escaping else .off).written depth s τ with
    | none => exact .none
    | some r => exact .some ⟨.value depth escaped r.1, rfl⟩
  | @lines indent margin ps ps' pieces =>
    have hpieces := pieces.writeAll escaping τ
    rw [Piece.write, Piece.write]
    generalize writeAll escaping ps τ = r at hpieces ⊢
    generalize writeAll escaping ps' τ = r' at hpieces ⊢
    cases hpieces with
    | none => exact .none
    | some h => exact .some ⟨.lines margin h.1, h.2⟩

/-- **The same pieces are escaped alike**, as their values are the same. -/
theorem PiecesLike.writeAll {ps ps' : List Piece} (h : PiecesLike V ps ps') (escaping : Escaping)
    (τ : Tally) :
    Option.Rel (fun r r' => PiecesLike V r.1 r'.1 ∧ r'.2 = r.2) (writeAll escaping ps τ)
      (writeAll escaping ps' τ) := by
  cases h with
  | nil => exact .some ⟨.nil, rfl⟩
  | @cons p p' ps ps' first others =>
    have hfirst := first.write escaping τ
    rw [Mustache.writeAll, Mustache.writeAll]
    generalize p.write escaping τ = r at hfirst ⊢
    generalize p'.write escaping τ = r' at hfirst ⊢
    cases hfirst with
    | none => exact .none
    | @some r r' hfirst =>
      have hothers := others.writeAll escaping r.2
      rw [Option.bind_some, Option.bind_some, hfirst.2]
      generalize Mustache.writeAll escaping ps r.2 = q at hothers ⊢
      generalize Mustache.writeAll escaping ps' r.2 = q' at hothers ⊢
      cases hothers with
      | none => exact .none
      | some hothers => exact .some ⟨.cons hfirst.1 hothers.1, hothers.2⟩

end

/-! ## Outlines -/

namespace Outline.Like

theorem eq {o o' : Outline} (h : o.Like Eq o') : o = o' := by
  cases h with
  | none => rfl
  | some pieces => rw [pieces.eq]

theorem empty : Outline.Like V (Option.some []) (Option.some []) := .some .nil

theorem append {o o' o₁ o₁' : Outline} (h : o.Like V o') (h₁ : o₁.Like V o₁') :
    (o.append o₁).Like V (o'.append o₁') := by
  cases h with
  | none => exact .none
  | some pieces =>
    cases h₁ with
    | none => exact .none
    | some pieces₁ => exact .some (pieces.append pieces₁)

theorem lines {o o' : Outline} (h : o.Like V o') {indent : String} (margin : V indent indent) :
    Outline.Like V (.lines indent o) (.lines indent o') := by
  cases h with
  | none => exact .none
  | some pieces => exact .some (.cons (.lines margin pieces) .nil)

variable {body body' : List Value → Outline}

theorem items (h : ∀ frames, (body frames).Like V (body' frames)) (frames items : List Value) :
    (outlineItems body frames items).Like V (outlineItems body' frames items) := by
  induction items with
  | nil => exact empty
  | cons item items ih => exact (h _).append ih

theorem block (h : ∀ frames, (body frames).Like V (body' frames)) {head head' : Section}
    (name : head'.name = head.name) (inverted : head'.inverted = head.inverted)
    (filters : head'.filters = head.filters) (frames : List Value) :
    (outlineSection head body frames).Like V (outlineSection head' body' frames) := by
  unfold outlineSection
  rw [name, inverted, filters]
  split
  · cases (valueOf head.name frames).truth.toOption with
    | none => exact none
    | some shown =>
      rw [Option.bind_some, Option.bind_some]
      split
      · split
        · exact empty
        · exact h frames
      · split
        · exact items h _ _
        · exact empty
  · exact none

end Outline.Like

/-! ## Nodes -/

section

variable {included included' : String → List Value → Outline}

mutual

theorem outlineNode_like
    (hincluded : ∀ name frames, (included name frames).Like V (included' name frames))
    (depth : Nat) {n n' : Node} (h : n.Like V n') (frames : List Value) :
    (outlineNode included depth n frames).Like V (outlineNode included' depth n' frames) := by
  cases h with
  | text place place' related => exact .some (.cons (.text related) .nil)
  | interpolation place place' name escaped filters delims delims' =>
    rw [outlineNode, outlineNode, outlineInterpolation]
    split
    · cases ((valueOf name frames).write {}).toOption with
      | none => exact .none
      | some s => exact .some (.cons (.value depth escaped s) .nil)
    · exact .none
  | block name inverted filters bodies =>
    exact .block (fun frames => outlineNodes_like hincluded depth bodies frames) name inverted
      filters frames
  | inclusion place place' name margin => exact (hincluded name frames).lines margin
  | comment => exact .empty
  | delimiterChange => exact .empty
  | pragma => exact .empty

/-- **The outlines of nodes that say the same** with related texts. -/
theorem outlineNodes_like
    (hincluded : ∀ name frames, (included name frames).Like V (included' name frames))
    (depth : Nat) {ns ns' : List Node} (h : AllLike V ns ns') (frames : List Value) :
    (outlineNodes included depth ns frames).Like V (outlineNodes included' depth ns' frames) := by
  cases h with
  | nil => exact .empty
  | cons first others =>
    exact (outlineNode_like hincluded depth first frames).append
      (outlineNodes_like hincluded depth others frames)

end

end

mutual

theorem Piece.like_refl : (p : Piece) → p.Like Eq p
  | .text _ => .text rfl
  | .value depth escaped s => .value depth escaped s
  | .lines _ ps => .lines rfl (piecesLike_refl ps)

theorem piecesLike_refl : (ps : List Piece) → PiecesLike Eq ps ps
  | [] => .nil
  | p :: ps => .cons (Piece.like_refl p) (piecesLike_refl ps)

end

/-- **Nodes that say the same with the same texts write the same.** -/
theorem outlineNodes_eq_of_like (included : String → List Value → Outline) (depth : Nat)
    {ns ns' : List Node} (h : AllLike Eq ns ns') (frames : List Value) :
    outlineNodes included depth ns frames = outlineNodes included depth ns' frames := by
  refine (outlineNodes_like (fun name frames => ?_) depth h frames).eq
  cases included name frames with
  | none => exact .none
  | some ps => exact .some (piecesLike_refl ps)

end

end Mustache
