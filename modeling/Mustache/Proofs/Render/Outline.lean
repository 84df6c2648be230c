import Mustache.Proofs.Session.Inert
import Mustache.Proofs.Session.Quiet

/-!
# Outlines

What a template writes for data without callables can be told from its source, without a session:
texts and values one after the other, and the lines of included templates. This is its outline. Only
then are the values escaped, in the order in which they stand, and put together with the texts.

## Main definitions

* `Mustache.Piece` — a text, a value, or the lines of an included template.
* `Mustache.outlineNodes` — the outline of some nodes.
* `Mustache.outlineSource` — the outline of a source.
* `Mustache.composed` — the text that pieces make, and the counts afterwards.
* `Mustache.OutlineLe` — outlines of which the second makes the same text wherever the first one
  makes one.

## Main results

* `Mustache.composed_append` — pieces are put together one after the other.
* `Mustache.outlineNodes_mono`, `Mustache.outlineSource_mono` — with more levels left, a template
  writes the same.

## Implementation notes

Values carry the number of levels that are left where they are written, since a callable that
escapes may need some of them.
-/

namespace Mustache

/-! ## Pieces -/

/-- A piece of what a template writes. -/
inductive Piece where
  /-- Literal text. -/
  | text (s : String)
  /-- The text of a value, with so many levels left, and whether it is to be escaped. -/
  | value (depth : Nat) (escaped : Bool) (s : String)
  /-- The lines of an included template, indented. -/
  | lines (indent : String) (pieces : List Piece)

/-- The pieces of something that is written, `none` if it cannot be. -/
abbrev Outline := Option (List Piece)

/-- One outline after the other. -/
def Outline.append (o o' : Outline) : Outline := o.bind fun ps => o'.map fun qs => ps ++ qs

/-- The lines of an outline, indented. -/
def Outline.lines (indent : String) (o : Outline) : Outline := o.map fun ps => [.lines indent ps]

/-! ## Outlines of nodes -/

/-- The pieces of what is repeated for items, each item being the topmost frame meanwhile. -/
def outlineItems (body : List Value → Outline) (frames : List Value) : List Value → Outline
  | [] => some []
  | item :: items => (body (item :: frames)).append (outlineItems body frames items)

/-- The pieces of a section, given those of what is between its tags. -/
def outlineSection (head : Section) (body : List Value → Outline) (frames : List Value) : Outline :=
  if head.filters = [] then
    (valueOf head.name frames).truth.toOption.bind fun shown =>
      if head.inverted then if shown then some [] else body frames
      else if shown then outlineItems body frames (valueOf head.name frames).items
      else some []
  else none

/-- The pieces of an interpolation. -/
def outlineInterpolation (depth : Nat) (name : String) (escaped : Bool) (filters : List String)
    (frames : List Value) : Outline :=
  if filters = [] then
    ((valueOf name frames).write {}).toOption.map fun s => [.value depth escaped s]
  else none

mutual

/-- The pieces of a node, given those of the templates that it may include. -/
def outlineNode (included : String → List Value → Outline) (depth : Nat) :
    Node → List Value → Outline
  | .text _ value, _ => some [.text value]
  | .interpolation _ name escaped filters _, frames =>
    outlineInterpolation depth name escaped filters frames
  | .block head body, frames =>
    outlineSection head (fun frames => outlineNodes included depth body frames) frames
  | .inclusion _ name indent, frames => .lines indent (included name frames)
  | .comment _ _, _ | .delimiterChange _ _, _ | .pragma _ _, _ => some []
  | .flawed _, _ => none

/-- The pieces of nodes in order. -/
def outlineNodes (included : String → List Value → Outline) (depth : Nat) :
    List Node → List Value → Outline
  | [], _ => some []
  | n :: ns, frames =>
    (outlineNode included depth n frames).append (outlineNodes included depth ns frames)

end

/-- The pieces of what is included under a name: nothing if there is no such source. -/
def outlineIncluded (includes : String → Option String) (outline : String → List Value → Outline)
    (name : String) (frames : List Value) : Outline :=
  match includes name with
  | none => some []
  | some source => outline source frames

/-- **The pieces of a source**, with so many levels left, where `includes` has the sources of the
templates that may be included. -/
def outlineSource (includes : String → Option String) :
    (depth : Nat) → String → List Value → Outline
  | 0, _, _ => none
  | depth + 1, source, frames =>
    match parse source .null .usual with
    | .ok tree =>
      outlineNodes (outlineIncluded includes (outlineSource includes depth)) depth tree.body frames
    | .error _ => none

/-! ## Texts of pieces -/

mutual

/-- A piece with its values escaped, and the counts afterwards. -/
def Piece.write (escaping : Escaping) : Piece → Tally → Option (Piece × Tally)
  | .text s, τ => some (.text s, τ)
  | .value depth escaped s, τ =>
    ((if escaped then escaping else .off).written depth s τ).map fun r =>
      (.value depth escaped r.1, r.2)
  | .lines indent ps, τ => (writeAll escaping ps τ).map fun r => (.lines indent r.1, r.2)

/-- Pieces with their values escaped, in order, and the counts afterwards. -/
def writeAll (escaping : Escaping) : List Piece → Tally → Option (List Piece × Tally)
  | [], τ => some ([], τ)
  | p :: ps, τ =>
    (p.write escaping τ).bind fun r => (writeAll escaping ps r.2).map fun r' => (r.1 :: r'.1, r'.2)

end

mutual

/-- The text of a piece. -/
def Piece.content : Piece → String
  | .text s | .value _ _ s => s
  | .lines indent ps => indentLines (contents ps) indent

/-- The text of pieces in order. -/
def contents : List Piece → String
  | [] => ""
  | p :: ps => p.content ++ contents ps

end

/-- **The text that pieces make**, and the counts afterwards; `none` if a value cannot be
escaped. -/
def composed (escaping : Escaping) (ps : List Piece) (τ : Tally) : Option (String × Tally) :=
  (writeAll escaping ps τ).map fun r => (contents r.1, r.2)

/-- The text that an outline makes, and the counts afterwards. -/
def Outline.composed (escaping : Escaping) (o : Outline) (τ : Tally) : Option (String × Tally) :=
  o.bind fun ps => Mustache.composed escaping ps τ

section

variable {escaping : Escaping}

theorem writeAll_append (ps qs : List Piece) (τ : Tally) :
    writeAll escaping (ps ++ qs) τ = (writeAll escaping ps τ).bind fun r =>
      (writeAll escaping qs r.2).map fun r' => (r.1 ++ r'.1, r'.2) := by
  induction ps generalizing τ with
  | nil => simp [writeAll]
  | cons p ps ih =>
    rw [List.cons_append, writeAll, writeAll]
    cases p.write escaping τ with
    | none => rfl
    | some r =>
      simp only [Option.bind_some, ih]
      cases writeAll escaping ps r.2 with
      | none => rfl
      | some r' =>
        simp only [Option.bind_some, Option.map_some, Option.map_map]
        rfl

theorem contents_append (ps qs : List Piece) :
    contents (ps ++ qs) = contents ps ++ contents qs := by
  induction ps with
  | nil => simp [contents]
  | cons p ps ih => rw [List.cons_append, contents, contents, ih, String.append_assoc]

theorem composed_nil (τ : Tally) : composed escaping [] τ = some ("", τ) := by
  simp [composed, writeAll, contents]

/-- **Pieces are put together one after the other.** -/
theorem composed_append (ps qs : List Piece) (τ : Tally) :
    composed escaping (ps ++ qs) τ = (composed escaping ps τ).bind fun r =>
      (composed escaping qs r.2).map fun r' => (r.1 ++ r'.1, r'.2) := by
  unfold composed
  rw [writeAll_append]
  cases writeAll escaping ps τ with
  | none => rfl
  | some r =>
    simp only [Option.bind_some, Option.map_some, Option.map_map]
    cases writeAll escaping qs r.2 with
    | none => rfl
    | some r' => simp [contents_append]

/-- **Outlines are put together one after the other.** -/
theorem Outline.composed_append (o o' : Outline) (τ : Tally) :
    (o.append o').composed escaping τ = (o.composed escaping τ).bind fun r =>
      (o'.composed escaping r.2).map fun r' => (r.1 ++ r'.1, r'.2) := by
  cases o with
  | none => rfl
  | some ps =>
    cases o' with
    | none =>
      show none = (Mustache.composed escaping ps τ).bind fun r => none
      cases Mustache.composed escaping ps τ <;> rfl
    | some qs => exact Mustache.composed_append ps qs τ

theorem composed_append_eq_some_iff {ps qs : List Piece} {τ τ' : Tally} {x : String} :
    composed escaping (ps ++ qs) τ = some (x, τ') ↔
      ∃ y τ₁ z, composed escaping ps τ = some (y, τ₁) ∧
        composed escaping qs τ₁ = some (z, τ') ∧ x = y ++ z := by
  rw [composed_append]
  constructor
  · intro h
    obtain ⟨⟨y, τ₁⟩, hps, h⟩ := Option.bind_eq_some_iff.1 h
    obtain ⟨⟨z, τ₂⟩, hqs, h⟩ := Option.map_eq_some_iff.1 h
    obtain ⟨rfl, rfl⟩ := Prod.mk.inj h
    exact ⟨y, τ₁, z, hps, hqs, rfl⟩
  · rintro ⟨y, τ₁, z, hps, hqs, rfl⟩
    rw [hps, Option.bind_some, hqs]
    rfl

theorem composed_text (s : String) (τ : Tally) :
    composed escaping [.text s] τ = some (s, τ) := by
  simp [composed, writeAll, Piece.write, contents, Piece.content]

theorem composed_value (depth : Nat) (escaped : Bool) (s : String) (τ : Tally) :
    composed escaping [.value depth escaped s] τ =
      (if escaped then escaping else .off).written depth s τ := by
  unfold composed
  rw [writeAll, Piece.write]
  cases (if escaped then escaping else .off).written depth s τ with
  | none => rfl
  | some r => simp [writeAll, contents, Piece.content]

theorem composed_lines (indent : String) (ps : List Piece) (τ : Tally) :
    composed escaping [.lines indent ps] τ =
      (composed escaping ps τ).map fun r => (indentLines r.1 indent, r.2) := by
  unfold composed
  rw [writeAll, Piece.write]
  cases writeAll escaping ps τ with
  | none => rfl
  | some r => simp [writeAll, contents, Piece.content]

/-- Without an indent lines stay as they are. -/
theorem indentLines_empty (text : String) : indentLines text "" = text := by
  have hfrom (atStart : Bool) (cs : List Char) : indentFrom [] atStart cs = cs := by
    induction cs generalizing atStart with
    | nil => cases atStart <;> rfl
    | cons c cs ih => cases atStart <;> simp [indentFrom, ih]
  unfold indentLines
  rw [show "".toList = [] from rfl, hfrom, String.ofList_toList]

/-! ## Outlines that make the same text -/

/-- **Wherever the first pieces make a text, the second ones make the same.** -/
def PiecesLe (escaping : Escaping) (ps qs : List Piece) : Prop :=
  ∀ τ r, composed escaping ps τ = some r → composed escaping qs τ = some r

/-- **Wherever the first outline makes a text, the second one makes the same.** -/
def OutlineLe (escaping : Escaping) (o o' : Outline) : Prop :=
  ∀ ps, o = some ps → ∃ qs, o' = some qs ∧ PiecesLe escaping ps qs

namespace PiecesLe

variable {ps ps' qs qs' rs : List Piece}

theorem refl (ps : List Piece) : PiecesLe escaping ps ps := fun _ _ h => h

theorem trans (h : PiecesLe escaping ps qs) (h' : PiecesLe escaping qs rs) :
    PiecesLe escaping ps rs :=
  fun τ r hr => h' τ r (h τ r hr)

theorem append (h : PiecesLe escaping ps qs) (h' : PiecesLe escaping ps' qs') :
    PiecesLe escaping (ps ++ ps') (qs ++ qs') := by
  intro τ r hr
  obtain ⟨y, τ₁, z, hps, hps', hx⟩ := composed_append_eq_some_iff.1 hr
  exact composed_append_eq_some_iff.2 ⟨y, τ₁, z, h _ _ hps, h' _ _ hps', hx⟩

theorem value {m n : Nat} (hle : m ≤ n) (escaped : Bool) (s : String) :
    PiecesLe escaping [.value m escaped s] [.value n escaped s] := by
  intro τ r hr
  rw [composed_value] at hr ⊢
  exact Escaping.written_mono hle hr

theorem lines (h : PiecesLe escaping ps qs) (indent : String) :
    PiecesLe escaping [.lines indent ps] [.lines indent qs] := by
  intro τ r hr
  rw [composed_lines] at hr ⊢
  obtain ⟨r', hps, rfl⟩ := Option.map_eq_some_iff.1 hr
  rw [h τ r' hps]
  rfl

end PiecesLe

namespace OutlineLe

variable {o o' o₁ o₁' o'' : Outline}

theorem refl (o : Outline) : OutlineLe escaping o o := fun ps h => ⟨ps, h, .refl ps⟩

theorem none (o : Outline) : OutlineLe escaping none o := fun _ h => nomatch h

theorem some {ps qs : List Piece} (h : PiecesLe escaping ps qs) :
    OutlineLe escaping (some ps) (some qs) := by
  intro ps' hps'
  obtain rfl := Option.some.inj hps'
  exact ⟨qs, rfl, h⟩

theorem trans (h : OutlineLe escaping o o') (h' : OutlineLe escaping o' o'') :
    OutlineLe escaping o o'' := by
  intro ps hps
  obtain ⟨qs, hqs, hle⟩ := h ps hps
  obtain ⟨rs, hrs, hle'⟩ := h' qs hqs
  exact ⟨rs, hrs, hle.trans hle'⟩

theorem append (h : OutlineLe escaping o o') (h₁ : OutlineLe escaping o₁ o₁') :
    OutlineLe escaping (o.append o₁) (o'.append o₁') := by
  intro ps hps
  obtain ⟨front, hfront, hps⟩ := Option.bind_eq_some_iff.1 hps
  obtain ⟨rest, hrest, rfl⟩ := Option.map_eq_some_iff.1 hps
  obtain ⟨front', hfront', hle⟩ := h front hfront
  obtain ⟨rest', hrest', hle'⟩ := h₁ rest hrest
  refine ⟨front' ++ rest', ?_, hle.append hle'⟩
  rw [hfront', hrest']
  rfl

theorem lines (h : OutlineLe escaping o o') (indent : String) :
    OutlineLe escaping (.lines indent o) (.lines indent o') := by
  intro ps hps
  obtain ⟨inner, hinner, rfl⟩ := Option.map_eq_some_iff.1 hps
  obtain ⟨inner', hinner', hle⟩ := h inner hinner
  exact ⟨[.lines indent inner'], congrArg _ hinner', hle.lines indent⟩

variable {body body' : List Value → Outline}

theorem items (h : ∀ frames, OutlineLe escaping (body frames) (body' frames))
    (frames items : List Value) :
    OutlineLe escaping (outlineItems body frames items) (outlineItems body' frames items) := by
  induction items with
  | nil => exact refl _
  | cons item items ih => exact (h _).append ih

theorem block (h : ∀ frames, OutlineLe escaping (body frames) (body' frames)) (head : Section)
    (frames : List Value) :
    OutlineLe escaping (outlineSection head body frames) (outlineSection head body' frames) := by
  unfold outlineSection
  split
  · cases (valueOf head.name frames).truth.toOption with
    | none => exact none _
    | some shown =>
      rw [Option.bind_some, Option.bind_some]
      split
      · split
        · exact refl _
        · exact h frames
      · split
        · exact items h _ _
        · exact refl _
  · exact none _

end OutlineLe

/-! ## More levels -/

section

variable {included included' : String → List Value → Outline} {m n : Nat}

mutual

theorem outlineNode_mono
    (h : ∀ name frames, OutlineLe escaping (included name frames) (included' name frames))
    (hle : m ≤ n) (frames : List Value) : (node : Node) →
      OutlineLe escaping (outlineNode included m node frames) (outlineNode included' n node frames)
  | .text _ _ => .refl _
  | .interpolation _ name escaped filters _ => by
    rw [outlineNode, outlineNode, outlineInterpolation, outlineInterpolation]
    split
    · cases ((valueOf name frames).write {}).toOption with
      | none => exact .none _
      | some s => exact .some (.value hle escaped s)
    · exact .none _
  | .block head body => .block (fun frames => outlineNodes_mono h hle frames body) head frames
  | .inclusion _ name indent => (h name frames).lines indent
  | .comment _ _ => .refl _
  | .delimiterChange _ _ => .refl _
  | .pragma _ _ => .refl _
  | .flawed _ => .none _

/-- **With more levels left, nodes write the same.** -/
theorem outlineNodes_mono
    (h : ∀ name frames, OutlineLe escaping (included name frames) (included' name frames))
    (hle : m ≤ n) (frames : List Value) : (nodes : List Node) →
      OutlineLe escaping (outlineNodes included m nodes frames)
        (outlineNodes included' n nodes frames)
  | [] => .refl _
  | node :: nodes =>
    (outlineNode_mono h hle frames node).append (outlineNodes_mono h hle frames nodes)

end

end

theorem outlineIncluded_mono {includes : String → Option String}
    {outline outline' : String → List Value → Outline}
    (h : ∀ source frames, OutlineLe escaping (outline source frames) (outline' source frames))
    (name : String) (frames : List Value) :
    OutlineLe escaping (outlineIncluded includes outline name frames)
      (outlineIncluded includes outline' name frames) := by
  unfold outlineIncluded
  split
  · exact .refl _
  · exact h _ _

/-- **With more levels left, a source writes the same.**

**Proof sketch.** Induction on the number of levels. What is included is one level deeper. -/
theorem outlineSource_mono {includes : String → Option String} {m n : Nat} (hle : m ≤ n)
    (source : String) (frames : List Value) :
    OutlineLe escaping (outlineSource includes m source frames)
      (outlineSource includes n source frames) := by
  induction m generalizing n source frames with
  | zero => exact .none _
  | succ m ih =>
    cases n with
    | zero => exact absurd hle (Nat.not_succ_le_zero m)
    | succ n =>
      have hle' := Nat.le_of_succ_le_succ hle
      rw [outlineSource, outlineSource]
      split
      · exact outlineNodes_mono (outlineIncluded_mono (ih hle')) hle' frames _
      · exact .none _

end

end Mustache
