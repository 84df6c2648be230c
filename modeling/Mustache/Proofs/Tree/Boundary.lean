import Mustache.Proofs.Token.Boundary
import Mustache.Proofs.Tree.Traversal

/-!
# Trees across a line boundary

The tree of two sources, one behind the other, has the nodes of both, those of the second one
some characters and lines further on; a text at the end of the first one and a text at the start
of the second one are one text.

## Main definitions

* `Mustache.Node.shift`, `Mustache.Builder.shift` — some characters and lines further on.
* `Mustache.Builder.onto` — what a builder has read behind nodes that were read before.

## Main results

* `Mustache.Builder.steps_shift`, `Mustache.Builder.steps_onto` — a run of the builder does not
  depend on where the tokens stand, nor on the nodes before them.
* `Mustache.buildTree_append` — the tree of two sources.
-/

namespace Mustache

/-! ## Shifted nodes -/

/-- The section some characters and lines further on. -/
def Section.shift (chars lines : Nat) (head : Section) : Section :=
  { head with
    place := head.place.shift lines, start := head.start + chars, stop := head.stop + chars }

mutual

/-- The node some characters and lines further on. -/
def Node.shift (chars lines : Nat) : Node → Node
  | .text place value => .text (place.shift lines) value
  | .interpolation place name escaped filters delims =>
    .interpolation (place.shift lines) name escaped filters delims
  | .block head body => .block (head.shift chars lines) (shiftAll chars lines body)
  | .inclusion place name indent => .inclusion (place.shift lines) name indent
  | .comment place value => .comment (place.shift lines) value
  | .delimiterChange place delims => .delimiterChange (place.shift lines) delims
  | .pragma place name => .pragma (place.shift lines) name
  | .flawed flaw => .flawed flaw

/-- The nodes some characters and lines further on. -/
def shiftAll (chars lines : Nat) : List Node → List Node
  | [] => []
  | n :: ns => n.shift chars lines :: shiftAll chars lines ns

end

section

variable (k l : Nat)

theorem shiftAll_eq_map (ns : List Node) : shiftAll k l ns = ns.map (Node.shift k l) := by
  induction ns with
  | nil => rfl
  | cons n ns ih => rw [shiftAll, ih, List.map_cons]

theorem shiftAll_reverse (ns : List Node) :
    shiftAll k l ns.reverse = (shiftAll k l ns).reverse := by
  rw [shiftAll_eq_map, shiftAll_eq_map, List.map_reverse]

/-- The open section some characters and lines further on. -/
def OpenSection.shift (s : OpenSection) : OpenSection :=
  { s with opener := s.opener.shift k l, before := shiftAll k l s.before }

namespace Builder

/-- What has been read some characters and lines further on. -/
def shift (b : Builder) : Builder :=
  { b with body := shiftAll k l b.body, sections := b.sections.map (OpenSection.shift k l) }

theorem split_shift {active : Bool} {t : Token} {parts : String × List String}
    (h : split active t = .ok parts) : split active (t.shift k l) = .ok parts := by
  unfold split at h ⊢
  rw [show (t.shift k l).value = t.value from rfl]
  cases hs : splitFilters active t.value with
  | none => simp [hs] at h
  | some _ => simpa [hs] using h

variable {b b' : Builder} {t : Token}

theorem openSection_shift (h : b.openSection t = .ok b') :
    (b.shift k l).openSection (t.shift k l) = .ok (b'.shift k l) := by
  unfold openSection at h ⊢
  cases hs : split b.filtersActive t with
  | error e => simp [hs] at h
  | ok parts =>
    rw [hs] at h
    obtain rfl := Except.ok.inj h
    rw [show (b.shift k l).filtersActive = b.filtersActive from rfl, split_shift k l hs]
    rfl

theorem closeSection_shift (h : b.closeSection t = .ok b') :
    (b.shift k l).closeSection (t.shift k l) = .ok (b'.shift k l) := by
  unfold closeSection at h ⊢
  rw [show (b.shift k l).sections = b.sections.map (OpenSection.shift k l) from rfl]
  cases hb : b.sections with
  | nil => simp [hb] at h
  | cons s outer =>
    rw [hb] at h
    rw [List.map_cons]
    dsimp only at h ⊢
    rw [show (s.shift k l).filtersActive = s.filtersActive from rfl]
    cases hs : split s.filtersActive t with
    | error e => simp [hs] at h
    | ok parts =>
      rw [hs] at h
      rw [split_shift k l hs]
      dsimp only at h ⊢
      rw [show (s.shift k l).name = s.name from rfl]
      split at h
      · next hname =>
        obtain rfl := Except.ok.inj h
        rw [if_pos hname]
        simp only [shift, shiftAll, Node.shift, shiftAll_reverse]
        rfl
      · simp at h

theorem interpolate_shift (h : b.interpolate t = .ok b') :
    (b.shift k l).interpolate (t.shift k l) = .ok (b'.shift k l) := by
  unfold interpolate at h ⊢
  cases hs : split b.filtersActive t with
  | error e => simp [hs] at h
  | ok parts =>
    rw [hs] at h
    obtain rfl := Except.ok.inj h
    rw [show (b.shift k l).filtersActive = b.filtersActive from rfl, split_shift k l hs]
    rfl

theorem changeDelimiters_shift (h : b.changeDelimiters t = .ok b') :
    (b.shift k l).changeDelimiters (t.shift k l) = .ok (b'.shift k l) := by
  unfold changeDelimiters at h ⊢
  rw [show (t.shift k l).value = t.value from rfl]
  split at h
  · obtain rfl := Except.ok.inj h
    rfl
  · simp at h

/-- A token is read in the same way further on. -/
theorem step_shift (h : b.step t = .ok b') :
    (b.shift k l).step (t.shift k l) = .ok (b'.shift k l) := by
  unfold step at h ⊢
  rw [show (t.shift k l).kind = t.kind from rfl]
  cases hk : t.kind with
  | text | inclusion | comment | pragma =>
    rw [hk] at h
    obtain rfl := Except.ok.inj h
    rfl
  | interpolation | rawInterpolation =>
    rw [hk] at h
    exact interpolate_shift k l h
  | sectionStart | invertedStart =>
    rw [hk] at h
    exact openSection_shift k l h
  | sectionEnd =>
    rw [hk] at h
    exact closeSection_shift k l h
  | delimiterChange =>
    rw [hk] at h
    exact changeDelimiters_shift k l h

/-- Tokens are read in the same way further on. -/
theorem steps_shift {tokens : List Token} (h : b.steps tokens = .ok b') :
    (b.shift k l).steps (tokens.map (Token.shift k l)) = .ok (b'.shift k l) := by
  induction tokens generalizing b with
  | nil =>
    obtain rfl := Except.ok.inj h
    rfl
  | cons t ts ih =>
    rw [steps] at h
    cases hstep : b.step t with
    | error e => simp [hstep] at h
    | ok b₁ =>
      rw [hstep] at h
      rw [List.map_cons, steps, step_shift k l hstep]
      exact ih h

end Builder

end

/-! ## Nodes read before -/

/-- The nodes that are set aside, with `base` before those of the outermost section. -/
def layered (base : List Node) : List OpenSection → List Node → List Node
  | [], ns => ns ++ base
  | _ :: _, ns => ns

/-- The open sections, with `base` before the outermost one. -/
def sectionsOnto (base : List Node) : List OpenSection → List OpenSection
  | [] => []
  | s :: outer => { s with before := layered base outer s.before } :: sectionsOnto base outer

theorem sectionsOnto_eq_nil_iff {base : List Node} {sections : List OpenSection} :
    sectionsOnto base sections = [] ↔ sections = [] := by
  cases sections with
  | nil => exact ⟨fun _ => rfl, fun _ => rfl⟩
  | cons s outer => simp [sectionsOnto]

namespace Builder

/-- What has been read, behind the nodes of `base`, which are from last to first, and after the
pragmas `earlier`. -/
def onto (base : List Node) (earlier : List String) (b : Builder) : Builder :=
  { body := layered base b.sections b.body, sections := sectionsOnto base b.sections,
    pragmas := b.pragmas ++ earlier }

section

variable (base : List Node) {earlier : List String} (h : filtersPragma ∉ earlier)

theorem layered_cons (n : Node) (sections : List OpenSection) (ns : List Node) :
    layered base sections (n :: ns) = n :: layered base sections ns := by
  cases sections <;> rfl

theorem push_onto (b : Builder) (n : Node) :
    (b.onto base earlier).push n = (b.push n).onto base earlier := by
  unfold push onto
  rw [layered_cons]

include h in
theorem filtersActive_onto (b : Builder) :
    (b.onto base earlier).filtersActive = b.filtersActive := by
  unfold filtersActive onto
  rw [List.contains_append]
  simp [h]

include h in
theorem openSection_onto (b : Builder) (t : Token) :
    (b.onto base earlier).openSection t = (b.openSection t).map (Builder.onto base earlier) := by
  unfold openSection
  rw [filtersActive_onto base h]
  cases split b.filtersActive t <;> rfl

theorem closeSection_onto (b : Builder) (t : Token) :
    (b.onto base earlier).closeSection t = (b.closeSection t).map (Builder.onto base earlier) := by
  unfold closeSection
  rw [show (b.onto base earlier).sections = sectionsOnto base b.sections from rfl]
  cases hb : b.sections with
  | nil => rfl
  | cons s outer =>
    dsimp only [sectionsOnto]
    cases split s.filtersActive t with
    | error e => rfl
    | ok parts =>
      dsimp only
      split
      · refine congrArg Except.ok ?_
        simp only [onto, hb, layered_cons]
        rfl
      · rfl

include h in
theorem interpolate_onto (b : Builder) (t : Token) :
    (b.onto base earlier).interpolate t = (b.interpolate t).map (Builder.onto base earlier) := by
  unfold interpolate
  rw [filtersActive_onto base h]
  cases split b.filtersActive t with
  | error e => rfl
  | ok parts => exact congrArg Except.ok (push_onto base b _)

theorem changeDelimiters_onto (b : Builder) (t : Token) :
    (b.onto base earlier).changeDelimiters t =
      (b.changeDelimiters t).map (Builder.onto base earlier) := by
  unfold changeDelimiters
  split
  · exact congrArg Except.ok (push_onto base b _)
  · rfl

include h in
/-- A token is read in the same way behind other nodes. -/
theorem step_onto (b : Builder) (t : Token) :
    (b.onto base earlier).step t = (b.step t).map (Builder.onto base earlier) := by
  unfold step
  cases t.kind with
  | text | inclusion | comment => exact congrArg Except.ok (push_onto base b _)
  | pragma =>
    exact congrArg
      (fun b' : Builder => Except.ok { b' with pragmas := t.value :: b.pragmas ++ earlier })
      (push_onto base b _)
  | interpolation | rawInterpolation => exact interpolate_onto base h b t
  | sectionStart | invertedStart => exact openSection_onto base h b t
  | sectionEnd => exact closeSection_onto base b t
  | delimiterChange => exact changeDelimiters_onto base b t

include h in
/-- Tokens are read in the same way behind other nodes. -/
theorem steps_onto (b : Builder) (tokens : List Token) :
    (b.onto base earlier).steps tokens = (b.steps tokens).map (Builder.onto base earlier) := by
  induction tokens generalizing b with
  | nil => rfl
  | cons t ts ih =>
    rw [steps, steps, step_onto base h]
    cases b.step t with
    | error e => rfl
    | ok b' => exact ih b'

end

/-- When no section is open, tokens are read as they are from the start, behind the nodes that have
been read. -/
theorem steps_of_sections_eq_nil {b b' : Builder} (hsections : b.sections = [])
    (hpragmas : filtersPragma ∉ b.pragmas) {tokens : List Token} :
    b.steps tokens = .ok b' ↔
      ∃ b₀, empty.steps tokens = .ok b₀ ∧ b₀.onto b.body b.pragmas = b' := by
  have hb : b = empty.onto b.body b.pragmas := by
    obtain ⟨body, sections, pragmas⟩ := b
    obtain rfl : sections = [] := hsections
    simp [onto, empty, layered, sectionsOnto]
  rw [hb, steps_onto _ hpragmas, ← hb]
  cases empty.steps tokens with
  | error e => simp [Except.map]
  | ok b₀ => simp [Except.map]

/-! ## Runs in parts -/

/-- Tokens are read one part after the other. -/
theorem steps_append_eq_ok_iff {b b' : Builder} {ts us : List Token} :
    b.steps (ts ++ us) = .ok b' ↔ ∃ b₁, b.steps ts = .ok b₁ ∧ b₁.steps us = .ok b' := by
  induction ts generalizing b with
  | nil => simp [steps]
  | cons t ts ih =>
    rw [List.cons_append, steps, steps]
    cases b.step t with
    | error e => simp
    | ok b₁ => exact ih

/-- A token other than a pragma for filters does not make filters available. -/
theorem filtersActive_of_step {b b' : Builder} {t : Token} (h : b.step t = .ok b')
    (ht : ¬ t.IsFiltersPragma) : b'.filtersActive = b.filtersActive := by
  unfold step at h
  cases hk : t.kind with
  | text | inclusion | comment =>
    rw [hk] at h
    rw [← Except.ok.inj h]
    rfl
  | pragma =>
    rw [hk] at h
    rw [← Except.ok.inj h]
    have hne : t.value ≠ filtersPragma := fun hv => ht ⟨hk, hv⟩
    show (t.value :: b.pragmas).contains filtersPragma = b.pragmas.contains filtersPragma
    rw [List.contains_cons, beq_false_of_ne hne.symm, Bool.false_or]
  | interpolation | rawInterpolation =>
    rw [hk] at h
    dsimp only [interpolate] at h
    split at h
    · simp at h
    · rw [← Except.ok.inj h]
      rfl
  | sectionStart | invertedStart =>
    rw [hk] at h
    dsimp only [openSection] at h
    split at h
    · simp at h
    · rw [← Except.ok.inj h]
      rfl
  | sectionEnd =>
    rw [hk] at h
    dsimp only [closeSection] at h
    split at h
    · simp at h
    · split at h
      · simp at h
      · split at h
        · rw [← Except.ok.inj h]
          rfl
        · simp at h
  | delimiterChange =>
    rw [hk] at h
    dsimp only [changeDelimiters] at h
    split at h
    · rw [← Except.ok.inj h]
      rfl
    · simp at h

/-- Tokens without a pragma for filters do not make filters available. -/
theorem filtersActive_of_steps {b b' : Builder} {tokens : List Token}
    (h : b.steps tokens = .ok b') (ht : ∀ t ∈ tokens, ¬ t.IsFiltersPragma) :
    b'.filtersActive = b.filtersActive := by
  induction tokens generalizing b with
  | nil => rw [Except.ok.inj h]
  | cons t ts ih =>
    rw [List.forall_mem_cons] at ht
    rw [steps] at h
    cases hstep : b.step t with
    | error e => simp [hstep] at h
    | ok b₁ =>
      rw [hstep] at h
      rw [ih h ht.2, filtersActive_of_step hstep ht.1]

end Builder

/-- The tree is what the builder has read when no section is open. -/
theorem buildTree_eq_ok_iff {tokens : List Token} {tree : Tree} :
    buildTree tokens = .ok tree ↔
      ∃ b, Builder.empty.steps tokens = .ok b ∧ b.finish = .ok tree := by
  unfold buildTree
  cases Builder.empty.steps tokens <;> simp

/-! ## Two token lists -/

/-- The node of a stretch of text; there is none for the empty stretch. -/
def textNodes (place : Place) (cs : List Char) : List Node :=
  if cs.isEmpty then [] else [.text place (String.ofList cs)]

theorem Builder.steps_textToken (b : Builder) (d : Delimiters) (pos : Position) (cs : List Char) :
    b.steps (textToken d pos cs) = .ok { b with body := textNodes pos.place cs ++ b.body } := by
  unfold textToken textNodes
  split <;> rfl

theorem textNodes_reverse (place : Place) (cs : List Char) :
    (textNodes place cs).reverse = textNodes place cs := by
  unfold textNodes
  split <;> rfl

/-- No section is open at the end, and the nodes are those that have been read. -/
theorem Builder.finish_eq_ok {b : Builder} {tree : Tree} (h : b.finish = .ok tree) :
    b.sections = [] ∧ tree.body = b.body.reverse := by
  unfold finish at h
  split at h
  · simp at h
  · next hb =>
    rw [← Except.ok.inj h]
    exact ⟨hb, rfl⟩

/-- **The tree of two token lists**, of which the first one ends and the second one starts with a
stretch of text: the nodes of both, with one text for the two stretches.

**Proof sketch.** Behind the first list, the builder goes on as it does from the start, with the
nodes of the first list before those that it reads; and behind a first text of the second list, it
goes on as it does without. -/
theorem buildTree_append {init rest : List Token} {d : Delimiters} {pos : Position}
    {u v : List Char} {first second : Tree} (k l : Nat)
    (hfirst : buildTree (init ++ textToken d pos u) = .ok first)
    (hsecond : buildTree (textToken d .start v ++ rest) = .ok second)
    (hfilters : ∀ t ∈ init, ¬ t.IsFiltersPragma) :
    ∃ tree ns ms,
      buildTree (init ++ textToken d pos (u ++ v) ++ rest.map (Token.shift k l)) = .ok tree ∧
      first.body = ns ++ textNodes pos.place u ∧
      second.body = textNodes Position.start.place v ++ ms ∧
      tree.body = ns ++ textNodes pos.place (u ++ v) ++ shiftAll k l ms := by
  obtain ⟨b₁, hb₁, hfinish₁⟩ := buildTree_eq_ok_iff.1 hfirst
  obtain ⟨b, hinit, htext⟩ := Builder.steps_append_eq_ok_iff.1 hb₁
  rw [Builder.steps_textToken] at htext
  obtain rfl := Except.ok.inj htext
  obtain ⟨hsections, hbody₁⟩ := Builder.finish_eq_ok hfinish₁
  have hactive : filtersPragma ∉ b.pragmas := by
    have := Builder.filtersActive_of_steps hinit hfilters
    simpa [Builder.filtersActive, Builder.empty] using this
  -- The second list is read without its first text.
  obtain ⟨b₂, hb₂, hfinish₂⟩ := buildTree_eq_ok_iff.1 hsecond
  obtain ⟨b', htext', hrest⟩ := Builder.steps_append_eq_ok_iff.1 hb₂
  rw [Builder.steps_textToken] at htext'
  obtain rfl := Except.ok.inj htext'
  obtain ⟨b₃, hb₃, rfl⟩ :=
    (Builder.steps_of_sections_eq_nil rfl (List.not_mem_nil (a := filtersPragma))).1 hrest
  obtain ⟨hsections₃, hbody₂⟩ := Builder.finish_eq_ok hfinish₂
  have hnone : b₃.sections = [] := sectionsOnto_eq_nil_iff.1 hsections₃
  -- Behind the first list it is read as it is from the start.
  have hboth : Builder.empty.steps
      (init ++ textToken d pos (u ++ v) ++ rest.map (Token.shift k l)) =
        .ok ((b₃.shift k l).onto (textNodes pos.place (u ++ v) ++ b.body) b.pragmas) := by
    refine Builder.steps_append_eq_ok_iff.2 ⟨_, Builder.steps_append_eq_ok_iff.2
      ⟨b, hinit, Builder.steps_textToken b d pos (u ++ v)⟩, ?_⟩
    exact (Builder.steps_of_sections_eq_nil
      (b := { b with body := textNodes pos.place (u ++ v) ++ b.body }) hsections hactive).2
      ⟨_, Builder.steps_shift k l hb₃, rfl⟩
  obtain ⟨tree, htree, hbody⟩ := Builder.exists_finish
    (b := (b₃.shift k l).onto (textNodes pos.place (u ++ v) ++ b.body) b.pragmas)
    (by simp [Builder.onto, Builder.shift, hnone, sectionsOnto])
  refine ⟨tree, b.body.reverse, b₃.body.reverse, buildTree_eq_ok_iff.2 ⟨_, hboth, htree⟩,
    ?_, ?_, ?_⟩
  · rw [hbody₁, List.reverse_append, textNodes_reverse]
  · rw [hbody₂]
    simp only [Builder.onto, Builder.empty, hnone, layered, List.append_nil, List.reverse_append,
      textNodes_reverse]
  · rw [hbody]
    simp only [Builder.onto, Builder.shift, hnone, List.map_nil, layered, List.reverse_append,
      textNodes_reverse, shiftAll_reverse]

/-- A source without an opening delimiter has its text for a tree. -/
theorem parseTokens_textToken (d : Delimiters) (cs : List Char) (name : Value)
    (shown : Option String) : parseTokens (textToken d .start cs) name shown =
      .ok ⟨textNodes Position.start.place cs, []⟩ := by
  have hfinish : Builder.finish ⟨textNodes Position.start.place cs, [], []⟩ =
      .ok ⟨textNodes Position.start.place cs, []⟩ := by
    unfold Builder.finish
    rw [textNodes_reverse, List.mergeSort_nil]
    rfl
  rw [parseTokens_eq_ok_iff, buildTree, Builder.steps_textToken, Builder.empty, List.append_nil]
  exact hfinish

end Mustache
