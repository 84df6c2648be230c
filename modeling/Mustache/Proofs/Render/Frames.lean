import Mustache.Proofs.Render.Boundary
import Mustache.Proofs.Session.Events

/-!
# The frames of a session

The frames are one stack, which sections, included templates, lambdas and the means to render text
that lambdas are given all share. Whatever is rendered or called at any level leaves the stack as
it has found it, also if it ends in a fault. So a section renders what is between its tags once for
each item, and every time in the frames at the section with nothing but that item on top.

## Main definitions

* `Mustache.Rounds` — what is between the tags of a section, rendered for one item after the other.

## Main results

* `Mustache.Rounds.of_renderItems` — items are rendered in rounds.
* `Mustache.renderSection_eq_renderItems` — a section that is shown renders its items.
* `Mustache.frames_restored` — the frames come back from every level, and every item is rendered in
  the frames at its section.
-/

namespace Mustache

/-- **Rounds of a body**: for each item in turn, the body is run in the given frames with that
item on top, and the frames are as given between the rounds. The outputs stand one after the
other, and a fault ends the rounds. -/
inductive Rounds (body : Action Output) (frames : List Value) :
    List Value → Session → EStateM.Result Fault Session Output → Prop
  /-- Nothing is left to be rendered. -/
  | done {s : Session} : Rounds body frames [] s (.ok Output.empty s)
  /-- The body ends in a fault. -/
  | fault {item : Value} {items : List Value} {s s₁ : Session} {e : Fault}
    (body_eq : body (s.framed (item :: frames)) = .error e s₁)
    (frames_eq : s₁.frames = item :: frames) :
    Rounds body frames (item :: items) s (.error e (s₁.framed frames))
  /-- The body ends well, and so do the other rounds. -/
  | round {item : Value} {items : List Value} {s s₁ s₂ : Session} {first others : Output}
    (body_eq : body (s.framed (item :: frames)) = .ok first s₁)
    (frames_eq : s₁.frames = item :: frames)
    (rounds : Rounds body frames items (s₁.framed frames) (.ok others s₂)) :
    Rounds body frames (item :: items) s (.ok (first.append others) s₂)
  /-- The body ends well, and a later round ends in a fault. -/
  | laterFault {item : Value} {items : List Value} {s s₁ s₂ : Session} {first : Output} {e : Fault}
    (body_eq : body (s.framed (item :: frames)) = .ok first s₁)
    (frames_eq : s₁.frames = item :: frames)
    (rounds : Rounds body frames items (s₁.framed frames) (.error e s₂)) :
    Rounds body frames (item :: items) s (.error e s₂)

/-! ## Items -/

/-- A frame is taken off again, given that the action leaves the frames as they are. -/
theorem withFrame_eq_of_ok {α : Type} {act : Action α} {item : Value} {s s₁ : Session} {a : α}
    (hrun : act (s.framed (item :: s.frames)) = .ok a s₁) (hframes : s₁.frames = item :: s.frames) :
    withFrame item act s = .ok a (s₁.framed s.frames) := by
  unfold withFrame
  rw [Session.framed] at hrun
  rw [hrun]
  dsimp only
  rw [hframes]
  rfl

/-- A frame is taken off again after a fault. -/
theorem withFrame_eq_of_error {α : Type} {act : Action α} {item : Value} {s s₁ : Session}
    {e : Fault} (hrun : act (s.framed (item :: s.frames)) = .error e s₁)
    (hframes : s₁.frames = item :: s.frames) :
    withFrame item act s = .error e (s₁.framed s.frames) := by
  unfold withFrame
  rw [Session.framed] at hrun
  rw [hrun]
  dsimp only
  rw [hframes]
  rfl

/-- **Items are rendered in rounds**, whether all goes well or not.

**Proof sketch.** Induction on the items. The body leaves the frames as it has found them, with the
item on top, so that taking the topmost one off gives the frames of the section, and the next round
starts in them. -/
theorem Rounds.of_renderItems {body : Action Output} (h : Keeps body) (items : List Value)
    (s : Session) : Rounds body s.frames items s (renderItems body items s) := by
  induction items generalizing s with
  | nil => exact .done
  | cons item items ih =>
    have hframes := (h (s.framed (item :: s.frames))).frames
    show Rounds body s.frames (item :: items) s
      ((withFrame item body >>= fun first =>
        renderItems body items >>= fun others => pure (first.append others)) s)
    cases hbody : body (s.framed (item :: s.frames)) with
    | error e s₁ =>
      rw [hbody] at hframes
      rw [bind_of_error (withFrame_eq_of_error hbody hframes)]
      exact .fault hbody hframes
    | ok first s₁ =>
      rw [hbody] at hframes
      rw [bind_of_ok (withFrame_eq_of_ok hbody hframes)]
      have hrest := ih (s₁.framed s.frames)
      cases hitems : renderItems body items (s₁.framed s.frames) with
      | error e s₂ =>
        rw [hitems] at hrest
        rw [bind_of_error hitems]
        exact .laterFault hbody hframes hrest
      | ok others s₂ =>
        rw [hitems] at hrest
        rw [bind_of_ok hitems]
        exact .round hbody hframes hrest

/-! ## Sections -/

/-- A section that is shown for a value which is no lambda renders the items of the value. -/
theorem renderSection_eq_renderItems {below : Below} {t : Template} {head : Section}
    {body : Action Output} {s s₁ : Session} {v : Value}
    (hfind : findFiltered below ⟨head.name, head.filters, head.place, t.name, t.source⟩ s = .ok v s₁)
    (hupright : head.inverted = false) (hplain : v.isLambda = false)
    (hshown : v.truth = .ok true) :
    renderSection below t head body s = renderItems body v.items s₁ := by
  unfold renderSection
  rw [bind_of_ok hfind, if_neg (by simp [hupright]), if_neg (by simp [hplain]), hshown]
  rfl

/-- An inverted section that is shown renders what is between its tags once, in the frames at the
section. -/
theorem renderSection_eq_of_inverted {below : Below} {t : Template} {head : Section}
    {body : Action Output} {s s₁ : Session} {v : Value}
    (hfind : findFiltered below ⟨head.name, head.filters, head.place, t.name, t.source⟩ s = .ok v s₁)
    (hinverted : head.inverted = true) (hhidden : v.truth = .ok false) :
    renderSection below t head body s = body s₁ := by
  unfold renderSection
  rw [bind_of_ok hfind, if_pos hinverted, hhidden]
  rfl

/-- **The frames come back**: a template, what a lambda has rendered, any nodes of a template and a
call of anything that can be called leave the frames as they were, at every level, whether they end
well or in a fault. And a section renders what is between its tags in rounds, one for each item, in
the frames at the section with that item on top; an inverted section renders it in the frames at the
section.

**Proof sketch.** That the frames come back is part of what every level keeps
(`keeps_level`), which goes by induction on the level and, within one level, on the tree. Looking
the name of a section up is among the actions that leave the frames as they are, so the rounds of
`Rounds.of_renderItems` start in the frames at the section. -/
theorem frames_restored (depth : Nat) :
    (∀ (t : Template) (s : Session),
      (sessionOf ((level depth).render t s)).frames = s.frames) ∧
    (∀ (t : Template) (indent : String) (s : Session),
      (sessionOf (renderIndented t indent s)).frames = s.frames) ∧
    (∀ (t : Template) (nodes : List Node) (s : Session),
      (sessionOf (renderNodes (level depth) t nodes s)).frames = s.frames) ∧
    (∀ (f : Callable) (self : Option Object) (args : List Value) (s : Session),
      (sessionOf (f.invoke (level depth) self args s)).frames = s.frames) ∧
    (∀ (text : Value) (delims : Option String) (s : Session),
      (sessionOf (renderText (level depth) text delims s)).frames = s.frames) ∧
    (∀ (t : Template) (head : Section) (body : List Node) (s s₁ : Session) (v : Value),
      findFiltered (level depth) ⟨head.name, head.filters, head.place, t.name, t.source⟩ s =
        .ok v s₁ →
      (head.inverted = false → v.isLambda = false → v.truth = .ok true →
        Rounds (renderNodes (level depth) t body) s.frames v.items s₁
          (renderNode (level depth) t (.block head body) s)) ∧
      (head.inverted = true → v.truth = .ok false →
        s₁.frames = s.frames ∧ renderNode (level depth) t (.block head body) s =
          renderNodes (level depth) t body s₁)) := by
  have hlevel := keeps_level depth
  refine ⟨fun t s => (hlevel.render t s).frames, fun t indent s => ?indented,
    fun t nodes s => (keeps_renderNodes hlevel t nodes s).frames,
    fun f self args s => (Callable.keeps_invoke hlevel f self args s).frames,
    fun text delims s => (keeps_renderText hlevel text delims s).frames,
    fun t head body s s₁ v hfind => ?sections⟩
  case indented =>
    have hkeeps : Keeps (renderIndented t indent) :=
      .bind (keeps_renderTemplate t) fun _ => .pure _
    exact (hkeeps s).frames
  case sections =>
    have hframes : s₁.frames = s.frames := by
      have hkept := (keeps_findFiltered hlevel
        ⟨head.name, head.filters, head.place, t.name, t.source⟩ s).frames
      rwa [hfind] at hkept
    refine ⟨fun hupright hplain hshown => ?_, fun hinverted hhidden => ⟨hframes, ?_⟩⟩
    · rw [renderNode, renderSection_eq_renderItems hfind hupright hplain hshown, ← hframes]
      exact .of_renderItems (keeps_renderNodes hlevel t body) v.items s₁
    · rw [renderNode]
      exact renderSection_eq_of_inverted hfind hinverted hhidden

/-- The section of a list whose second item cannot be written: the first item is rendered, the
second one ends the rounds in a fault, and the frames are those at the section again. -/
theorem frames_restored_after_fault : ∃ (t : Template) (head : Section) (body : List Node)
    (s : Session) (e : Fault),
    s.frames = [.list [.text "x", .list []]] ∧
      renderNode (level 1) t (.block head body) s = .error e s ∧
        Rounds (renderNodes (level 1) t body) s.frames [.text "x", .list []] s (.error e s) := by
  let items : List Value := [.text "x", .list []]
  let head : Section := ⟨⟨1, 0⟩, ".", false, [], 6, 11, .usual⟩
  let body : List Node := [.interpolation ⟨1, 6⟩ "." true [] .usual]
  let t : Template := default
  let s : Session := { (default : Session) with frames := [.list items] }
  have hfind : findFiltered (level 1) ⟨head.name, head.filters, head.place, t.name, t.source⟩ s =
      .ok (.list items) s := rfl
  have hrounds := ((frames_restored 1).2.2.2.2.2 t head body s s (.list items) hfind).1 rfl rfl rfl
  have hfault : ∃ e, renderNode (level 1) t (.block head body) s = .error e s := ⟨_, rfl⟩
  obtain ⟨e, he⟩ := hfault
  exact ⟨t, head, body, s, e, rfl, he, he ▸ hrounds⟩

end Mustache
