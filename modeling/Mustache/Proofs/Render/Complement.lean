import Mathlib.Tactic.Ring
import Mustache.Proofs.Render.Frames

/-!
# Sections and inverted sections

A section of a name is repeated for the value of the name, and the inverted section of the same
name is there for the case that it is repeated not at all. So one of the two renders, whatever the
value is, except that neither does anything for a range that has too many items to be counted; and
an inverted section never renders for a value that can be called.

## Main definitions

* `Mustache.Value.repetitions` — how often a section is repeated for a value.

## Main results

* `Mustache.lt_rangeLength_iff` — the number of items of a range.
* `Mustache.Value.length_items`, `Mustache.Value.truth_eq_ok` — what a section is shown for and how
  often it is repeated.
* `Mustache.sections_complement` — a section and the inverted section behind it.
-/

namespace Mustache

/-! ## Repetitions -/

/-- **How often a section is repeated for a value**: not at all for a missing value, null, false and
empty text or bytes, once for each item of a sequence, and once for anything else. -/
def Value.repetitions : Value → Nat
  | missing | null | bool false => 0
  | text s => if s = "" then 0 else 1
  | bytes bs | byteArray bs => if bs = [] then 0 else 1
  | list vs | tuple vs => vs.length
  | range start stop step => rangeLength start stop step
  | _ => 1

/-- **The number of items of a range**: an item has a number as long as it has not reached the
end. -/
theorem lt_rangeLength_iff {start stop step : Int} {i : Nat} : i < rangeLength start stop step ↔
    0 < step ∧ start + i * step < stop ∨ step < 0 ∧ stop < start + i * step := by
  unfold rangeLength
  by_cases hpos : step > 0
  · have hdiv : (i : Int) + 1 ≤ (stop - start + step - 1) / step ↔
        ((i : Int) + 1) * step ≤ stop - start + step - 1 := Int.le_ediv_iff_mul_le hpos
    have hmul : ((i : Int) + 1) * step = i * step + step := by ring
    rw [if_pos hpos, Int.lt_toNat]
    omega
  · by_cases hneg : step < 0
    · have hdiv : (i : Int) + 1 ≤ (start - stop - step - 1) / (-step) ↔
          ((i : Int) + 1) * (-step) ≤ start - stop - step - 1 :=
        Int.le_ediv_iff_mul_le (by omega)
      have hmul : ((i : Int) + 1) * (-step) = -(i * step) - step := by ring
      rw [if_neg hpos, if_pos hneg, Int.lt_toNat]
      omega
    · rw [if_neg hpos, if_neg hneg]
      omega

namespace Value

/-- A section is repeated for the items of a value, if it is repeated at all. -/
theorem length_items {v : Value} (h : v.repetitions ≠ 0) : v.items.length = v.repetitions := by
  cases v with
  | list vs => rfl
  | tuple vs => rfl
  | range start stop step => simp [items, rangeItems, repetitions]
  | bool b => cases b <;> simp_all [items, repetitions]
  | text s => simp_all [items, repetitions]
  | bytes bs => simp_all [items, repetitions]
  | byteArray bs => simp_all [items, repetitions]
  | _ => simp_all [items, repetitions]

/-- A value is shown if a section is repeated for it. -/
theorem isTruthy_eq (v : Value) : v.isTruthy = decide (v.repetitions ≠ 0) := by
  cases v with
  | bool b => cases b <;> rfl
  | text s => by_cases hs : s = "" <;> simp [isTruthy, repetitions, hs]
  | bytes bs => cases bs <;> simp [isTruthy, repetitions]
  | byteArray bs => cases bs <;> simp [isTruthy, repetitions]
  | list vs => cases vs <;> simp [isTruthy, repetitions]
  | tuple vs => cases vs <;> simp [isTruthy, repetitions]
  | range start stop step =>
    by_cases hlength : rangeLength start stop step = 0 <;> simp [isTruthy, repetitions, hlength]
  | _ => rfl

/-- A value is no range of so many items that they cannot be counted. -/
def IsCounted (v : Value) : Prop :=
  ∀ start stop step, v = .range start stop step → rangeLength start stop step < sizeLimit

/-- It can be told of a value whether a section is shown for it. -/
theorem truth_eq_ok {v : Value} (h : v.IsCounted) :
    v.truth = .ok (decide (v.repetitions ≠ 0)) := by
  cases v with
  | range start stop step =>
    have hlength : lengthOfRange start stop step = .ok (rangeLength start stop step) := by
      rw [lengthOfRange, if_pos (h start stop step rfl)]
    rw [truth, hlength]
    show Except.ok (decide (0 < rangeLength start stop step)) = _
    rw [decide_eq_decide.2 Nat.pos_iff_ne_zero]
    rfl
  | _ => exact congrArg Except.ok (isTruthy_eq _)

/-- It cannot be told of a range with too many items. -/
theorem truth_of_not_counted {start stop step : Int}
    (h : sizeLimit ≤ rangeLength start stop step) :
    (range start stop step).truth = .error .overflow := by
  simp [truth, lengthOfRange, Nat.not_lt.2 h, Except.map]

/-- Classes can be called as well, but are no lambdas. -/
theorem isCallable_of_isLambda {v : Value} (h : v.isLambda = true) : v.isCallable = true := by
  cases v <;> simp_all [isLambda, isCallable]

/-- What can be called is shown, and it is no range. -/
theorem truth_of_isCallable {v : Value} (h : v.isCallable = true) : v.truth = .ok true := by
  cases v <;> simp_all [isCallable, truth, isTruthy]

end Value

/-! ## Sections -/

section

variable {below : Below} {t : Template} {head : Section} {s s₁ : Session} {v : Value}

theorem findFiltered_of_nil (hfilters : head.filters = [])
    (hfind : findName below head.name s = .ok v s₁) :
    findFiltered below ⟨head.name, head.filters, head.place, t.name, t.source⟩ s = .ok v s₁ := by
  rw [hfilters]
  show (findName below head.name >>= pure) s = _
  rw [bind_pure, hfind]

/-- Text is written without a look at the session. -/
theorem renderNodes_text (place : Place) (text : String) (s : Session) :
    renderNodes below t [.text place text] s = .ok (some text) s := by
  show EStateM.Result.ok (some (text ++ "")) s = _
  rw [String.append_empty]

/-- Nodes are rendered one after the other. -/
theorem renderNodes_cons_of_ok {n : Node} {ns : List Node} {s₂ : Session} {first others : Output}
    (hfirst : renderNode below t n s = .ok first s₁)
    (hothers : renderNodes below t ns s₁ = .ok others s₂) :
    renderNodes below t (n :: ns) s = .ok (first.append others) s₂ := by
  rw [renderNodes, bind_of_ok hfirst, bind_of_ok hothers]
  rfl

/-- Text is repeated for every item. -/
theorem renderItems_text (place : Place) (text : String) (items : List Value) (s : Session) :
    renderItems (renderNodes below t [.text place text]) items s =
      .ok (some (String.join (List.replicate items.length text))) s := by
  induction items with
  | nil => rfl
  | cons item items ih =>
    have hfirst : withFrame item (renderNodes below t [.text place text]) s =
        .ok (some text) s := by
      rw [withFrame_eq_of_ok (renderNodes_text place text _) rfl]
      rfl
    show ((withFrame item (renderNodes below t [.text place text]) >>= fun first =>
      renderItems (renderNodes below t [.text place text]) items >>= fun others =>
        pure (first.append others)) s) = _
    rw [bind_of_ok hfirst, bind_of_ok ih, List.length_cons, List.replicate_succ, String.join_cons]
    rfl

/-- An inverted section writes nothing for a value that is shown, whatever is between its tags. -/
theorem renderSection_of_inverted_shown {body : Action Output}
    (hfind : findFiltered below ⟨head.name, head.filters, head.place, t.name, t.source⟩ s =
      .ok v s₁)
    (hinverted : head.inverted = true) (hshown : v.truth = .ok true) :
    renderSection below t head body s = .ok (some "") s₁ := by
  unfold renderSection
  rw [bind_of_ok hfind, if_pos hinverted, hshown]
  rfl

/-- A section writes nothing for a value that is not shown. -/
theorem renderSection_of_hidden {body : Action Output}
    (hfind : findFiltered below ⟨head.name, head.filters, head.place, t.name, t.source⟩ s =
      .ok v s₁)
    (hupright : head.inverted = false) (hplain : v.isLambda = false)
    (hhidden : v.truth = .ok false) :
    renderSection below t head body s = .ok (some "") s₁ := by
  unfold renderSection
  rw [bind_of_ok hfind, if_neg (by simp [hupright]), if_neg (by simp [hplain]), hhidden]
  rfl

/-- A section of either kind fails if it cannot be told whether the value is shown. -/
theorem renderSection_of_untold {body : Action Output} {e : Fault}
    (hfind : findFiltered below ⟨head.name, head.filters, head.place, t.name, t.source⟩ s =
      .ok v s₁)
    (hplain : v.isLambda = false) (htruth : v.truth = .error e) :
    renderSection below t head body s = .error e s₁ := by
  unfold renderSection
  rw [bind_of_ok hfind, htruth]
  cases head.inverted with
  | true => rfl
  | false =>
    rw [if_neg (by simp), if_neg (by simp [hplain])]
    rfl

/-- **A section with text** writes the text as often as it is repeated. -/
theorem renderNode_text_block (hfilters : head.filters = []) (hupright : head.inverted = false)
    (hfind : findName below head.name s = .ok v s₁) (hplain : v.isLambda = false)
    (hcounted : v.IsCounted) (place : Place) (text : String) :
    renderNode below t (.block head [.text place text]) s =
      .ok (some (String.join (List.replicate v.repetitions text))) s₁ := by
  have hfound : findFiltered below ⟨head.name, head.filters, head.place, t.name, t.source⟩ s =
      .ok v s₁ := findFiltered_of_nil hfilters hfind
  have htruth := Value.truth_eq_ok hcounted
  rw [renderNode]
  by_cases hzero : v.repetitions = 0
  · rw [hzero] at htruth ⊢
    exact renderSection_of_hidden hfound hupright hplain htruth
  · rw [decide_eq_true hzero] at htruth
    rw [renderSection_eq_renderItems hfound hupright hplain htruth, renderItems_text,
      Value.length_items hzero]

/-- **An inverted section** renders what is between its tags if the section is repeated not at
all. -/
theorem renderNode_inverted_block (hfilters : head.filters = []) (hinverted : head.inverted = true)
    (hfind : findName below head.name s = .ok v s₁) (hcounted : v.IsCounted) (body : List Node) :
    renderNode below t (.block head body) s =
      if v.repetitions = 0 then renderNodes below t body s₁ else .ok (some "") s₁ := by
  have hfound : findFiltered below ⟨head.name, head.filters, head.place, t.name, t.source⟩ s =
      .ok v s₁ := findFiltered_of_nil hfilters hfind
  have htruth := Value.truth_eq_ok hcounted
  rw [renderNode]
  by_cases hzero : v.repetitions = 0
  · rw [decide_eq_false (not_not.2 hzero)] at htruth
    rw [if_pos hzero, renderSection_eq_of_inverted hfound hinverted htruth]
  · rw [decide_eq_true hzero] at htruth
    rw [if_neg hzero, renderSection_of_inverted_shown hfound hinverted htruth]

end

/-- **Sections and inverted sections are complementary.** A name without filters is looked up for a
section with one text and for the inverted section with another text behind it.

* For a value that cannot be called, the first text is written as often as the section is repeated,
  and the second one once if that is not at all. What is between the tags of the inverted section is
  rendered in the frames in which the name has been looked up.
* For a value that can be called, the inverted section writes nothing, whatever is between its tags.
* Only of a range with too many items to be counted it cannot be told which of the two is shown,
  and both fail.
* The numbers of the items of a range are those that lead to an integer in front of its end. -/
theorem sections_complement {depth : Nat} {t : Template} {head head' : Section} {v : Value}
    {s s₁ : Session} (hname : head'.name = head.name) (hfilters : head.filters = [])
    (hfilters' : head'.filters = []) (hupright : head.inverted = false)
    (hinverted : head'.inverted = true)
    (hfind : findName (level depth) head.name s = .ok v s₁) :
    (v.isCallable = false → v.IsCounted →
      (∀ s₂, findName (level depth) head.name s₁ = .ok v s₂ →
        ∀ (place place' : Place) (text text' : String),
          renderNodes (level depth) t
              [.block head [.text place text], .block head' [.text place' text']] s =
            .ok (some (if v.repetitions = 0 then text'
              else String.join (List.replicate v.repetitions text))) s₂) ∧
      (v.repetitions = 0 → ∀ body : List Node, s₁.frames = s.frames ∧
        renderNode (level depth) t (.block head' body) s =
          renderNodes (level depth) t body s₁)) ∧
    (v.isCallable = true → ∀ body : List Node,
      renderNode (level depth) t (.block head' body) s = .ok (some "") s₁) ∧
    (¬ v.IsCounted → ∀ body : List Node,
      renderNode (level depth) t (.block head body) s = .error .overflow s₁ ∧
        renderNode (level depth) t (.block head' body) s = .error .overflow s₁) ∧
    ∀ (start stop step : Int) (i : Nat), i < (Value.range start stop step).repetitions ↔
      0 < step ∧ start + i * step < stop ∨ step < 0 ∧ stop < start + i * step := by
  have hfind' : findName (level depth) head'.name s = .ok v s₁ := by rw [hname, hfind]
  refine ⟨fun hcallable hcounted => ⟨?pair, ?unchanged⟩, ?callable, ?untold,
    fun start stop step i => lt_rangeLength_iff⟩
  case pair =>
    intro s₂ hagain place place' text text'
    have hplain : v.isLambda = false := by
      by_contra hlambda
      rw [Value.isCallable_of_isLambda (by simpa using hlambda)] at hcallable
      simp at hcallable
    have hfirst := renderNode_text_block (t := t) hfilters hupright hfind hplain hcounted place text
    have hsecond : renderNode (level depth) t (.block head' [.text place' text']) s₁ =
        .ok (some (if v.repetitions = 0 then text' else "")) s₂ := by
      rw [renderNode_inverted_block hfilters' hinverted (hname ▸ hagain) hcounted]
      split
      · exact renderNodes_text place' text' s₂
      · rfl
    have hnil : renderNodes (level depth) t [] s₂ = .ok (some "") s₂ := rfl
    rw [renderNodes_cons_of_ok hfirst (renderNodes_cons_of_ok hsecond hnil)]
    by_cases hzero : v.repetitions = 0
    · simp [hzero, Output.append]
    · simp [hzero, Output.append]
  case unchanged =>
    intro hzero body
    have hframes := (keeps_findName (keeps_level depth) head.name s).frames
    rw [hfind] at hframes
    refine ⟨hframes, ?_⟩
    rw [renderNode_inverted_block hfilters' hinverted hfind' hcounted, if_pos hzero]
  case callable =>
    intro hcallable body
    have hfound : findFiltered (level depth)
        ⟨head'.name, head'.filters, head'.place, t.name, t.source⟩ s = .ok v s₁ :=
      findFiltered_of_nil hfilters' hfind'
    rw [renderNode]
    exact renderSection_of_inverted_shown hfound hinverted (Value.truth_of_isCallable hcallable)
  case untold =>
    intro hnot body
    simp only [Value.IsCounted, not_forall, Nat.not_lt] at hnot
    obtain ⟨start, stop, step, rfl, hlong⟩ := hnot
    have htruth := Value.truth_of_not_counted hlong
    constructor
    · rw [renderNode]
      exact renderSection_of_untold (findFiltered_of_nil hfilters hfind) rfl htruth
    · rw [renderNode]
      exact renderSection_of_untold (findFiltered_of_nil hfilters' hfind') rfl htruth

/-- The section of a range that counts down. -/
theorem sections_complement_downwards : ∃ (head head' : Section) (s : Session),
    findName (level 1) head.name s = .ok (.range 5 0 (-2)) s ∧
      renderNodes (level 1) default
          [.block head [.text ⟨1, 6⟩ "a"], .block head' [.text ⟨1, 19⟩ "b"]] s =
        .ok (some "aaa") s := by
  let head : Section := ⟨⟨1, 0⟩, ".", false, [], 6, 7, .usual⟩
  let head' : Section := ⟨⟨1, 13⟩, ".", true, [], 19, 20, .usual⟩
  let s : Session := { (default : Session) with frames := [.range 5 0 (-2)] }
  have hfind : findName (level 1) head.name s = .ok (.range 5 0 (-2)) s := rfl
  have hcounted : (Value.range 5 0 (-2)).IsCounted := by
    rintro start stop step heq
    obtain ⟨rfl, rfl, rfl⟩ := Value.range.inj heq
    decide
  have hpair := ((@sections_complement 1 default head head' _ s s rfl rfl rfl rfl rfl hfind).1 rfl
    hcounted).1 s hfind ⟨1, 6⟩ ⟨1, 19⟩ "a" "b"
  exact ⟨head, head', s, hfind, hpair⟩

end Mustache
