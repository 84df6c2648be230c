import Mustache.Proofs.Cache.Provided
import Mustache.Proofs.Cache.Uncached
import Mustache.Proofs.Render.Outline

/-!
# Rendering follows the outline

If there is nothing to be called in the frames, a template is rendered to the text that its outline
makes, and it is not rendered at all if there is none. The session has no say in this: what the
engine keeps only saves it the parsing, and all that changes are the counts, through callables that
escape.

## Main definitions

* `Mustache.EndsAs` — the ends of an action of which the text is known.
* `Mustache.Follows` — an action that writes what an outline says.

## Main results

* `Mustache.follows_renderNodes` — nodes.
* `Mustache.follows_level` — templates, at every level.
* `Mustache.Template.render_eq_ok_of_outline`, `Mustache.Template.outline_of_render_eq_ok` — a
  template with data.
-/

namespace Mustache

/-! ## Ends of rendering -/

/-- **Ends of rendering, if the text and the counts are known**: this text is written, and the
session is as sound as before; or nothing is written, if there is no such text. A cache that cannot
be written may spoil it. -/
inductive EndsAs (sc : Scope) (c : Engine) (cached : Prop) (expected : Option (String × Tally))
    (s : Session) : EStateM.Result Fault Session Output → Prop
  | ok {x : String} {s' : Session} (expected_eq : expected = some (x, s'.tally))
    (frames : s'.frames = s.frames) (store : s'.store.IsSound sc c cached) :
    EndsAs sc c cached expected s (.ok (some x) s')
  | notText {s' : Session} (expected_eq : expected = none) :
    EndsAs sc c cached expected s (.ok none s')
  | error {e : Fault} {s' : Session} (expected_eq : expected = none) :
    EndsAs sc c cached expected s (.error e s')
  | unwritten {e : Fault} {s' : Session} (unwritten : e.IsUnwritten) (may : cached) :
    EndsAs sc c cached expected s (.error e s')

/-- The expected end in an earlier session with the same frames. -/
theorem EndsAs.of_frames {sc : Scope} {c : Engine} {cached : Prop}
    {expected : Option (String × Tally)} {s s₁ : Session}
    {r : EStateM.Result Fault Session Output} (h : EndsAs sc c cached expected s₁ r)
    (hframes : s₁.frames = s.frames) : EndsAs sc c cached expected s r := by
  cases h with
  | ok hx hframes' hs => exact .ok hx (hframes'.trans hframes) hs
  | notText hx => exact .notText hx
  | error hx => exact .error hx
  | unwritten unwritten may => exact .unwritten unwritten may

/-- **An action that writes what an outline says**, in sound sessions with the given frames. -/
def Follows (sc : Scope) (c : Engine) (cached : Prop) (frames : List Value) (o : Outline)
    (act : Action Output) : Prop :=
  ∀ s : Session, s.frames = frames → s.store.IsSound sc c cached →
    EndsAs sc c cached (o.composed c.escaping s.tally) s (act s)

variable {sc : Scope} {c : Engine} {cached : Prop} {frames : List Value}

namespace Follows

theorem text (x : String) : Follows sc c cached frames (some [.text x]) (pure (some x)) :=
  fun s _ hs => .ok (@composed_text c.escaping x s.tally) rfl hs

theorem empty : Follows sc c cached frames (some []) (pure Output.empty) :=
  fun s _ hs => .ok (@composed_nil c.escaping s.tally) rfl hs

theorem throw (e : Fault) : Follows sc c cached frames none (MonadExcept.throw e) :=
  fun _ _ _ => .error rfl

theorem notText : Follows sc c cached frames none (pure none) := fun _ _ _ => .notText rfl

/-- What comes first may leave the session as it is. -/
theorem of_ok {α : Type} {o : Outline} {act : Action α} {next : α → Action Output} {a : α}
    (hact : ∀ s : Session, s.frames = frames → s.store.IsSound sc c cached → act s = .ok a s)
    (h : Follows sc c cached frames o (next a)) : Follows sc c cached frames o (act >>= next) := by
  intro s hframes hs
  rw [bind_of_ok (hact s hframes hs)]
  exact h s hframes hs

theorem of_error {α : Type} {act : Action α} {next : α → Action Output}
    (hact : ∀ s : Session, s.frames = frames → s.store.IsSound sc c cached →
      ∃ e s', act s = .error e s') : Follows sc c cached frames none (act >>= next) := by
  intro s hframes hs
  obtain ⟨e, s', hrun⟩ := hact s hframes hs
  rw [bind_of_error hrun]
  exact .error rfl

/-- A value that may be missing. -/
theorem liftFault {α : Type} {x : Except Fault α} {o : α → Outline} {next : α → Action Output}
    (h : ∀ a, x = .ok a → Follows sc c cached frames (o a) (next a)) :
    Follows sc c cached frames (x.toOption.bind o) (Mustache.liftFault x >>= next) := by
  cases x with
  | ok a => exact of_ok (fun _ _ _ => rfl) (h a rfl)
  | error e => exact of_error fun s _ _ => ⟨e, s, rfl⟩

/-- **One after the other.** -/
theorem append {o o' : Outline} {act act' : Action Output} (h : Follows sc c cached frames o act)
    (h' : Follows sc c cached frames o' act') :
    Follows sc c cached frames (o.append o') (do
      let first ← act
      let others ← act'
      pure (first.append others)) := by
  intro s hframes hs
  have hfirst := h s hframes hs
  rw [Outline.composed_append]
  generalize hact : act s = r at hfirst
  cases hfirst with
  | @ok x s₁ hx hframes₁ hs₁ =>
    rw [bind_of_ok hact, hx, Option.bind_some]
    have hothers := h' s₁ (hframes₁.trans hframes) hs₁
    generalize hact' : act' s₁ = r at hothers
    cases hothers with
    | ok hy hframes₂ hs₂ =>
      rw [bind_of_ok hact', hy]
      exact .ok rfl (hframes₂.trans hframes₁) hs₂
    | notText hy =>
      rw [bind_of_ok hact', hy]
      exact .notText rfl
    | error hy =>
      rw [bind_of_error hact', hy]
      exact .error rfl
    | unwritten unwritten may =>
      rw [bind_of_error hact']
      exact .unwritten unwritten may
  | @notText s₁ hx =>
    rw [bind_of_ok hact, hx]
    cases hact' : act' s₁ with
    | ok others s₂ =>
      rw [bind_of_ok hact']
      exact .notText rfl
    | error e s₂ =>
      rw [bind_of_error hact']
      exact .error rfl
  | error hx =>
    rw [bind_of_error hact, hx]
    exact .error rfl
  | unwritten unwritten may =>
    rw [bind_of_error hact]
    exact .unwritten unwritten may

/-- One more frame on the stack. -/
theorem withFrame {o : Outline} {act : Action Output} {frame : Value}
    (h : Follows sc c cached (frame :: frames) o act) :
    Follows sc c cached frames o (withFrame frame act) := by
  intro s hframes hs
  have hinner := h (s.framed (frame :: s.frames)) (by rw [← hframes]; rfl) hs
  have htally : (s.framed (frame :: s.frames)).tally = s.tally := rfl
  rw [htally] at hinner
  unfold Mustache.withFrame
  cases hact : act (s.framed (frame :: s.frames)) with
  | ok a s₁ =>
    rw [hact] at hinner
    rw [Session.framed] at hact
    rw [hact]
    cases hinner with
    | ok hx hframes' hs' => exact .ok hx (by rw [hframes']; rfl) hs'
    | notText hx => exact .notText hx
  | error e s₁ =>
    rw [hact] at hinner
    rw [Session.framed] at hact
    rw [hact]
    cases hinner with
    | error hx => exact .error hx
    | unwritten unwritten may => exact .unwritten unwritten may

/-- The lines of what is written are indented. -/
theorem lines {o : Outline} {act : Action String} (indent : String)
    (h : Follows sc c cached frames o (do pure (some (← act)))) :
    Follows sc c cached frames (.lines indent o)
      (do pure (some (indentLines (← act) indent))) := by
  intro s hframes hs
  have hinner := h s hframes hs
  have hcomposed : (Outline.lines indent o).composed c.escaping s.tally =
      (o.composed c.escaping s.tally).map fun r => (indentLines r.1 indent, r.2) := by
    cases o with
    | none => rfl
    | some ps => exact composed_lines indent ps s.tally
  rw [hcomposed]
  cases hact : act s with
  | ok x s₁ =>
    rw [bind_of_ok hact] at hinner ⊢
    cases hinner with
    | ok hx hframes' hs' => exact .ok (by rw [hx]; rfl) hframes' hs'
  | error e s₁ =>
    rw [bind_of_error hact] at hinner ⊢
    cases hinner with
    | error hx => exact .error (by rw [hx]; rfl)
    | unwritten unwritten may => exact .unwritten unwritten may

end Follows

/-! ## Nodes -/

/-- Escaping changes the counts and the traces only. -/
theorem follows_escapeText (depth : Nat) (escaped : Bool) (text : String) :
    Follows sc c cached frames (some [.value depth escaped text])
      (escapeText (level depth) (if escaped then c.escaping else .off) text) := by
  intro s hframes hs
  show EndsAs sc c cached (composed c.escaping [.value depth escaped text] s.tally) s _
  rw [composed_value]
  generalize (if escaped then c.escaping else .off) = escaping
  have hnone (hno : ∀ x s', escapeText (level depth) escaping text s ≠ .ok (some x) s') :
      escaping.written depth text s.tally = none := by
    rw [Option.eq_none_iff_forall_not_mem]
    rintro ⟨x, τ⟩ hx
    obtain ⟨calls, hrun⟩ := (Escaping.written_eq_some_iff s).1 hx
    exact hno x _ hrun
  cases hrun : escapeText (level depth) escaping text s with
  | ok out s₁ =>
    cases out with
    | some x =>
      obtain ⟨calls, -, hs₁, -⟩ :=
        quiet_escapeText (Nat.le_refl depth) escaping text s s _ _ rfl hrun
      have hwritten : escaping.written depth text s.tally = some (x, s₁.tally) :=
        (Escaping.written_eq_some_iff s).2 ⟨calls, by rw [hrun, ← hs₁]⟩
      refine .ok hwritten ?_ ?_
      · rw [hs₁]
        rfl
      · rw [hs₁]
        exact hs
    | none => exact .notText (hnone fun x s' h => by simp [hrun] at h)
  | error e s₁ => exact .error (hnone fun x s' h => by simp [hrun] at h)

/-- What a value is written as does not depend on the occasion. -/
theorem toOption_write (v : Value) (o o' : Value.Occasion) :
    (v.write o).toOption = (v.write o').toOption := by
  cases h : v.write o with
  | ok text =>
    rw [write_eq_ok_of_eq_ok o' h]
  | error e =>
    cases h' : v.write o' with
    | ok text =>
      rw [write_eq_ok_of_eq_ok o h'] at h
      simp at h
    | error e' => rfl

section

variable (hframes : ∀ frame ∈ frames, frame.isInert = true) {t : Template}
  (hescaping : t.escaping = c.escaping)

include hframes

include hescaping in
theorem follows_renderInterpolation (depth : Nat) (place : Place) (name : String) (escaped : Bool)
    (filters : List String) (delims : Delimiters) :
    Follows sc c cached frames (outlineInterpolation depth name escaped filters frames)
      (renderInterpolation (level depth) t place name escaped filters delims) := by
  unfold outlineInterpolation renderInterpolation
  split
  · next hfilters =>
    subst hfilters
    refine .of_ok (a := valueOf name frames) (fun s hs _ => ?_) ?_
    · subst hs
      exact findFiltered_eq_ok hframes (level depth) name place t.name t.source
    · have hlambda := Value.isLambda_of_isInert (isInert_valueOf hframes name)
      rw [hescaping]
      simp only [hlambda, Bool.false_eq_true, if_false]
      rw [toOption_write _ {} ⟨some (delims.opening ++ name ++ delims.closing), t.name,
        some (place.line : Int)⟩, Option.map_eq_bind]
      exact .liftFault fun text _ => follows_escapeText depth escaped text
  · next hfilters =>
    refine .of_error fun s hs _ => ?_
    subst hs
    obtain ⟨e, hrun⟩ := findFiltered_eq_error hframes (level depth) name hfilters place t.name
      t.source
    exact ⟨e, s, hrun⟩

omit hframes in
theorem follows_renderItems {body : List Value → Outline} {act : Action Output} {items : List Value}
    (h : ∀ item ∈ items, Follows sc c cached (item :: frames) (body (item :: frames)) act) :
    Follows sc c cached frames (outlineItems body frames items) (renderItems act items) := by
  induction items with
  | nil => exact .empty
  | cons item items ih =>
    rw [List.forall_mem_cons] at h
    exact .append (.withFrame h.1) (ih h.2)

theorem follows_renderSection (below : Below) (head : Section) {body : List Value → Outline}
    {act : Action Output} (h : ∀ frames : List Value, (∀ frame ∈ frames, frame.isInert = true) →
      Follows sc c cached frames (body frames) act) :
    Follows sc c cached frames (outlineSection head body frames)
      (renderSection below t head act) := by
  unfold outlineSection renderSection
  split
  · next hfilters =>
    have hinert := isInert_valueOf hframes head.name
    refine .of_ok (a := valueOf head.name frames) (fun s hs _ => ?_) ?_
    · subst hs
      rw [hfilters]
      exact findFiltered_eq_ok hframes below head.name head.place t.name t.source
    · have hlambda := Value.isLambda_of_isInert hinert
      simp only [hlambda, Bool.false_eq_true, if_false]
      cases head.inverted with
      | true =>
        refine .liftFault fun shown _ => ?_
        cases shown with
        | true => exact .empty
        | false => exact h frames hframes
      | false =>
        refine .liftFault fun shown _ => ?_
        cases shown with
        | true =>
          refine follows_renderItems fun item hitem => h (item :: frames) ?_
          exact List.forall_mem_cons.2 ⟨Value.isInert_of_mem_items hinert hitem, hframes⟩
        | false => exact .empty
  · next hfilters =>
    refine .of_error fun s hs _ => ?_
    subst hs
    obtain ⟨e, hrun⟩ := findFiltered_eq_error hframes below head.name hfilters head.place t.name
      t.source
    exact ⟨e, s, hrun⟩

end

/-! ## Included templates -/

/-- A template is rendered at a level as the outline of its source says. -/
def FollowsSources (sc : Scope) (c : Engine) (cached : Prop) (includes : String → Option String)
    (depth : Nat) : Prop :=
  ∀ frames : List Value, (∀ frame ∈ frames, frame.isInert = true) → ∀ source t, t.IsOf c source →
    Follows sc c cached frames (outlineSource includes depth source frames)
      (do pure (some (← (level depth).render t)))

/-- A source without a tree has no outline. -/
theorem outlineSource_of_refused {includes : String → Option String} {depth : Nat}
    {source : String} {frames : List Value} {n : Value} {failure : ParseFailure}
    (h : parse source n .usual = .error failure) :
    outlineSource includes depth source frames = none := by
  cases depth with
  | zero => rfl
  | succ depth =>
    rw [outlineSource]
    split
    · next tree hparse =>
      rw [parse_eq_ok_of_name hparse n] at h
      simp at h
    · rfl

/-- A template of the engine looks for what it includes. -/
theorem renderInclusion_eq_loadPartial {s : Session} (hstore : s.store.IsSound sc c cached)
    {t : Template} (ht : t.engine = c.id) (name indent : String) (depth : Nat) :
    renderInclusion (level depth) t name indent s =
      (loadPartial? (level depth) name >>= fun
        | none => pure Output.empty
        | some included => do
          pure (some (indentLines (← (level depth).render included) indent))) s := by
  obtain ⟨e, he, hconfig, -⟩ := hstore.engine
  have hid : c.id = e.id := (Engine.eq_of_settings Engine.id (fun _ => rfl) hconfig).symm
  obtain ⟨e', hengine⟩ := exists_engineOf_eq (Session.Kept.refl s) he (ht.trans hid)
  exact bind_of_ok hengine

section

variable {includes : String → Option String} (hincludes : c.Includes sc includes)

include hincludes

/-- A template that there is no source for is only reported. -/
theorem exists_loadPartial_eq_none {s : Session} (hstore : s.store.IsSound sc c cached)
    {name : String} (hnone : includes name = none) (depth : Nat) :
    ∃ records, loadPartial? (level depth) name s = .ok none { s with records } := by
  obtain ⟨e, he, hconfig, hsound, -⟩ := hstore.engine
  obtain ⟨fault, hfault, hfind⟩ := hincludes.provides.missing depth name s hstore.files hnone
  obtain ⟨records, hlog⟩ := exists_logEvent_eq (hstore.levels ▸ hsound.serves) .warning
    (IsEvent.partialNotFound name)
  have hfound : attempt .notFound (c.partialsLoader.find (level depth) name) s = .ok none s :=
    attempt_of_covers hfind hfault
  refine ⟨records, ?_⟩
  unfold loadPartial?
  rw [bind_of_ok (theEngine_eq_ok he),
    Engine.eq_of_settings Engine.partialsLoader (fun _ => rfl) hconfig, bind_of_ok hfound]
  exact bind_of_ok hlog

/-- A template that there is a source for is loaded from it. -/
theorem exists_loadPartial_eq_loadSource {s : Session} (hstore : s.store.IsSound sc c cached)
    {name source : String} (hsource : includes name = some source) (depth : Nat) :
    ∃ n : Value, n.IsName ∧ loadPartial? (level depth) name s =
      (loadSource (level depth) (.text source) n >>= fun t => pure (some t)) s := by
  obtain ⟨e, he, hconfig, -⟩ := hstore.engine
  obtain ⟨origin, horigin, hfind⟩ :=
    hincludes.provides.found depth name source s hstore.files hsource
  obtain ⟨n, hn, hname⟩ := exists_knownAs_eq horigin name
  have hfound : attempt .notFound (c.partialsLoader.find (level depth) name) s =
      .ok (some ⟨.text source, origin⟩) s := attempt_of_ok hfind
  refine ⟨n, hname, ?_⟩
  unfold loadPartial?
  rw [bind_of_ok (theEngine_eq_ok he),
    Engine.eq_of_settings Engine.partialsLoader (fun _ => rfl) hconfig, bind_of_ok hfound]
  show (Mustache.liftFault (knownAs origin name) >>= fun n =>
    loadSource (level depth) (.text source) n >>= fun t => pure (some t)) s = _
  rw [hn]
  rfl

/-- A missing template is rendered as nothing. -/
theorem exists_renderInclusion_eq_empty {s : Session} (hstore : s.store.IsSound sc c cached)
    {t : Template} (ht : t.engine = c.id) {name : String} (hnone : includes name = none)
    (indent : String) (depth : Nat) : ∃ records,
    renderInclusion (level depth) t name indent s = .ok Output.empty { s with records } := by
  obtain ⟨records, hpartial⟩ := exists_loadPartial_eq_none hincludes hstore hnone depth
  refine ⟨records, (renderInclusion_eq_loadPartial hstore ht name indent depth).trans ?_⟩
  exact bind_of_ok hpartial

/-- A template that there is a source for is loaded from it, and is then rendered. -/
theorem exists_renderInclusion_eq_loadSource {s : Session} (hstore : s.store.IsSound sc c cached)
    {t : Template} (ht : t.engine = c.id) {name source : String}
    (hsource : includes name = some source) (indent : String) (depth : Nat) :
    ∃ n : Value, n.IsName ∧ renderInclusion (level depth) t name indent s =
      (loadSource (level depth) (.text source) n >>= fun included => do
        pure (some (indentLines (← (level depth).render included) indent))) s := by
  obtain ⟨n, hname, hpartial⟩ := exists_loadPartial_eq_loadSource hincludes hstore hsource depth
  refine ⟨n, hname, (renderInclusion_eq_loadPartial hstore ht name indent depth).trans ?_⟩
  generalize hrun : loadSource (level depth) (.text source) n s = r
  cases r with
  | ok included s₁ =>
    rw [bind_of_ok hrun] at hpartial
    rw [bind_of_ok hpartial, bind_of_ok hrun]
  | error e s₁ =>
    rw [bind_of_error hrun] at hpartial
    rw [bind_of_error hpartial, bind_of_error hrun]

/-- **An included template is rendered as the outline of its source says**, or it is missing. -/
theorem follows_renderInclusion {depth : Nat} (h : FollowsSources sc c cached includes depth)
    (hframes : ∀ frame ∈ frames, frame.isInert = true) {t : Template} (ht : t.engine = c.id)
    (name indent : String) :
    Follows sc c cached frames
      (.lines indent (outlineIncluded includes (outlineSource includes depth) name frames))
      (renderInclusion (level depth) t name indent) := by
  intro s hs hstore
  unfold outlineIncluded
  cases hsource : includes name with
  | none =>
    obtain ⟨records, hrun⟩ :=
      exists_renderInclusion_eq_empty hincludes hstore ht hsource indent depth
    rw [hrun]
    refine .ok ?_ rfl hstore
    show composed c.escaping [.lines indent []] s.tally = _
    rw [composed_lines, composed_nil]
    rfl
  | some source =>
    obtain ⟨n, hname, hinclusion⟩ :=
      exists_renderInclusion_eq_loadSource hincludes hstore ht hsource indent depth
    rw [hinclusion]
    have hyields := yields_loadSource (hincludes.known name source hsource) hname (level depth) s
      hstore
    generalize hrun : loadSource (level depth) (.text source) n s = r at hyields
    cases hyields with
    | @ok t' s₁ hof beside =>
      rw [bind_of_ok hrun]
      have htally : s₁.tally = s.tally := by
        unfold Session.tally
        rw [beside.tallies, beside.nextId]
      have hinner := (h frames hframes source t' hof).lines indent s₁ (beside.frames.trans hs)
        beside.store
      rw [htally] at hinner
      exact hinner.of_frames beside.frames
    | refused refused beside =>
      rw [bind_of_error hrun]
      show EndsAs sc c cached (Outline.composed c.escaping
        (.lines indent (outlineSource includes depth source frames)) s.tally) s _
      rw [outlineSource_of_refused refused]
      exact .error rfl
    | unwritten unwritten may =>
      rw [bind_of_error hrun]
      exact .unwritten unwritten may

end

/-! ## Levels -/

mutual

/-- A node is rendered as its outline says, if the sources that it may include are. -/
theorem follows_renderNode {includes : String → Option String}
    (hincludes : c.Includes sc includes) {depth : Nat}
    (h : FollowsSources sc c cached includes depth) {t : Template}
    (ht : t.engine = c.id) (hescaping : t.escaping = c.escaping) {frames : List Value}
    (hframes : ∀ frame ∈ frames, frame.isInert = true) : (n : Node) →
      Follows sc c cached frames
        (outlineNode (outlineIncluded includes (outlineSource includes depth)) depth n frames)
        (renderNode (level depth) t n)
  | .text _ value => .text value
  | .interpolation place name escaped filters delims =>
    follows_renderInterpolation hframes hescaping depth place name escaped filters delims
  | .block head body =>
    follows_renderSection hframes (level depth) head fun _ hframes =>
      follows_renderNodes hincludes h ht hescaping hframes body
  | .inclusion _ name indent => follows_renderInclusion hincludes h hframes ht name indent
  | .comment _ _ => .empty
  | .delimiterChange _ _ => .empty
  | .pragma _ _ => .empty
  | .flawed .lacking => .throw _
  | .flawed .wrongKind => .throw _
  | .flawed .notText => .notText

/-- **Nodes are rendered as their outline says**, if the sources that they may include are. -/
theorem follows_renderNodes {includes : String → Option String}
    (hincludes : c.Includes sc includes) {depth : Nat}
    (h : FollowsSources sc c cached includes depth) {t : Template}
    (ht : t.engine = c.id) (hescaping : t.escaping = c.escaping) {frames : List Value}
    (hframes : ∀ frame ∈ frames, frame.isInert = true) : (ns : List Node) →
      Follows sc c cached frames
        (outlineNodes (outlineIncluded includes (outlineSource includes depth)) depth ns frames)
        (renderNodes (level depth) t ns)
  | [] => .empty
  | n :: ns =>
    .append (follows_renderNode hincludes h ht hescaping hframes n)
      (follows_renderNodes hincludes h ht hescaping hframes ns)

end

/-- **At every level, templates are rendered as the outlines of their sources say.**

**Proof sketch.** Induction on the number of levels. Where none is left, there are neither outlines
nor templates that are rendered. -/
theorem follows_level {includes : String → Option String} (hincludes : c.Includes sc includes)
    (depth : Nat) : FollowsSources sc c cached includes depth := by
  induction depth with
  | zero => exact fun _ _ _ _ _ _ _ _ => .error rfl
  | succ depth ih =>
    intro frames hframes source t ht
    have hnodes := follows_renderNodes hincludes ih ht.engine ht.escaping hframes t.tree.body
    rw [outlineSource, ht.tree]
    intro s hs hstore
    have hinner := hnodes s hs hstore
    have hrender : (level (depth + 1)).render t s = renderBody (level depth) t s := rfl
    dsimp only
    cases hact : renderNodes (level depth) t t.tree.body s with
    | ok out s₁ =>
      rw [hact] at hinner
      cases hinner with
      | ok hx hframes' hs' =>
        rw [bind_of_ok (hrender.trans (renderBody_eq_ok_iff.2 hact))]
        exact .ok hx hframes' hs'
      | notText hx =>
        have hfault : renderBody (level depth) t s = .error .wrongKind s₁ := by
          unfold renderBody
          rw [bind_of_ok hact]
          rfl
        rw [bind_of_error (hrender.trans hfault)]
        exact .error hx
    | error e s₁ =>
      rw [hact] at hinner
      have hfault : renderBody (level depth) t s = .error e s₁ := by
        unfold renderBody
        rw [bind_of_error hact]
      rw [bind_of_error (hrender.trans hfault)]
      cases hinner with
      | error hx => exact .error hx
      | unwritten unwritten may => exact .unwritten unwritten may

/-! ## Templates -/

/-- **Data without callables**, for an engine of which the helpers have none either. -/
structure Engine.CallableFree (c : Engine) (data : Value) (locals : Entries) : Prop where
  helpers : haveInertValues c.helpers.entries = true
  data : data.isInert = true
  locals : haveInertValues locals = true

/-- The outline of a source that is rendered with data by an engine. -/
def Engine.outline (c : Engine) (includes : String → Option String) (source : String)
    (data : Value) (locals : Entries) : Outline :=
  outlineSource includes (depthLimit + 1) source (framesFor (some c) data locals)

/-- Nothing can be called in the frames for such data. -/
theorem Engine.CallableFree.isInert_of_mem {data : Value} {locals : Entries}
    (h : c.CallableFree data locals) :
    ∀ frame ∈ framesFor (some c) data locals, frame.isInert = true := by
  refine isInert_of_mem_framesFor (fun e he => ?_) h.data h.locals
  obtain rfl := Option.mem_some.1 he
  exact h.helpers

/-- The frames for a template depend on the configuration of its engine only. -/
theorem Template.framesFor_of_isSound {t : Template} (ht : t.engine = c.id) {s : Session}
    (hs : s.store.IsSound sc c cached) (data : Value) (locals : Entries) :
    framesFor (s.engineOf? t) data locals = framesFor (some c) data locals := by
  obtain ⟨e, he, hconfig, -⟩ := hs.engine
  have hid : t.engine = e.id :=
    ht.trans (Engine.eq_of_settings Engine.id (fun _ => rfl) hconfig).symm
  have hhelpers : e.helpers = c.helpers :=
    Engine.eq_of_settings Engine.helpers (fun _ => rfl) hconfig
  have hengine : s.engine = some e := he
  unfold Session.engineOf?
  rw [hengine, Option.filter_some, if_pos (by simp [hid])]
  unfold framesFor
  dsimp only
  rw [hhelpers]

namespace Template

variable {includes : String → Option String} (hincludes : c.Includes sc includes) {data : Value}
  {locals : Entries} (hfree : c.CallableFree data locals) {t : Template} {source : String}
  (ht : t.IsOf c source) {s : Session} (hs : s.store.IsSound sc c cached)

include hincludes hfree ht hs

/-- What the nodes of a template end in, when it is rendered with data. -/
theorem endsAs_render :
    EndsAs sc c cached ((c.outline includes source data locals).composed c.escaping s.tally)
      (s.framed (framesFor (s.engineOf? t) data locals))
      ((do pure (some (← renderTemplate t)) : Action Output)
        (s.framed (framesFor (s.engineOf? t) data locals))) :=
  follows_level hincludes (depthLimit + 1) _ hfree.isInert_of_mem source t ht
    (s.framed (framesFor (s.engineOf? t) data locals))
    (framesFor_of_isSound ht.engine hs data locals) hs

/-- **If a template is rendered, its outline makes the text.** -/
theorem outline_of_render_eq_ok {x : String} {s' : Session}
    (hrun : t.render data locals s = .ok x s') :
    (c.outline includes source data locals).composed c.escaping s.tally = some (x, s'.tally) := by
  have hends := endsAs_render hincludes hfree ht hs
  obtain ⟨s₁, hnodes, rfl⟩ := Template.render_eq_ok_iff.1 hrun
  have hbody : renderTemplate t (s.framed (framesFor (s.engineOf? t) data locals)) = .ok x s₁ :=
    renderBody_eq_ok_iff.2 hnodes
  rw [bind_of_ok hbody] at hends
  cases hends with
  | ok hx _ _ => exact hx

/-- **If the outline of a template makes a text, this text is rendered**, unless a cache cannot be
written. -/
theorem render_eq_ok_of_outline {x : String} {τ : Tally}
    (hx : (c.outline includes source data locals).composed c.escaping s.tally = some (x, τ)) :
    (∃ s', t.render data locals s = .ok x s') ∨
      cached ∧ ∃ e s', t.render data locals s = .error e s' ∧ e.IsUnwritten := by
  have hends := endsAs_render hincludes hfree ht hs
  rw [hx] at hends
  cases hrun : renderTemplate t (s.framed (framesFor (s.engineOf? t) data locals)) with
  | ok y s₁ =>
    rw [bind_of_ok hrun] at hends
    cases hends with
    | ok hxy _ _ =>
      obtain ⟨rfl, -⟩ := Prod.mk.inj (Option.some.inj hxy)
      exact .inl ⟨_, Template.render_eq_ok_iff.2 ⟨s₁, renderBody_eq_ok_iff.1 hrun, rfl⟩⟩
  | error e s₁ =>
    rw [bind_of_error hrun] at hends
    cases hends with
    | error hno => simp at hno
    | unwritten unwritten may =>
      refine .inr ⟨may, e, s₁.framed s.frames, ?_, unwritten⟩
      show withFrames (framesFor (s.engineOf? t) data locals) (renderTemplate t) s = _
      unfold withFrames
      rw [Session.framed] at hrun
      rw [hrun]
      rfl

end Template

end Mustache
