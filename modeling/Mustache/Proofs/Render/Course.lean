import Mustache.Proofs.Render.Outlined

/-!
# The course of rendering

For data without callables, which tags of a template are reached, in which order and with which
values, can be told from the sources, as its outline can. This is the course of rendering. Each
visit either passes or has a fault, whatever the session, and rendering ends in the fault of the
first visit that has one; if there is none, it ends well. A name that stands for nothing has no
fault, nor does a template that is missing.

## Main definitions

* `Mustache.Visit` — a tag that is reached, with its value.
* `Mustache.courseNodes`, `Mustache.courseSource` — the visits of nodes and of sources.
* `Mustache.Visit.Raises` — the faults of visits.
* `Mustache.Course.IsClear`, `Mustache.Course.StopsWith` — a course without faults, and the first
  fault of a course.
* `Mustache.Takes` — an action that takes a course.

## Main results

* `Mustache.Visit.not_raises_missing` — names that stand for nothing.
* `Mustache.takes_renderNodes` — nodes.
* `Mustache.takes_level` — templates, at every level.
* `Mustache.Template.render_takes_course` — a template with data.
-/

namespace Mustache

/-! ## Visits -/

/-- A tag that is reached. -/
inductive Visit where
  /-- A tag with filters. -/
  | filtered (name : String) (filters : List String) (place : Place) (source : String)
  /-- A value that is written in place of a tag. -/
  | written (v : Value) (expression : String) (line : Nat) (escaped : Bool)
  /-- A value by which it is decided whether a section is shown. -/
  | tested (v : Value)
  /-- A template for which there is no level left. -/
  | nested

/-- Visits in order. -/
abbrev Course := List Visit

/-- The visits of a section, given those of what is between its tags. -/
def courseSection (source : String) (head : Section) (body : List Value → Course)
    (frames : List Value) : Course :=
  if head.filters = [] then
    let v := valueOf head.name frames
    .tested v ::
      match v.truth with
      | .ok shown =>
        if head.inverted then if shown then [] else body frames
        else if shown then v.items.flatMap fun item => body (item :: frames)
        else []
      | .error _ => []
  else [.filtered head.name head.filters head.place source]

/-- The visit of an interpolation. -/
def courseInterpolation (source : String) (place : Place) (name : String) (escaped : Bool)
    (filters : List String) (delims : Delimiters) (frames : List Value) : Course :=
  if filters = [] then
    [.written (valueOf name frames) (delims.opening ++ name ++ delims.closing) place.line escaped]
  else [.filtered name filters place source]

mutual

/-- The visits of a node of a source, given those of the templates that it may include. -/
def courseNode (source : String) (included : String → List Value → Course) :
    Node → List Value → Course
  | .interpolation place name escaped filters delims, frames =>
    courseInterpolation source place name escaped filters delims frames
  | .block head body, frames =>
    courseSection source head (fun frames => courseNodes source included body frames) frames
  | .inclusion _ name _, frames => included name frames
  | .text _ _, _ | .comment _ _, _ | .delimiterChange _ _, _ | .pragma _ _, _ | .flawed _, _ => []

/-- The visits of nodes in order. -/
def courseNodes (source : String) (included : String → List Value → Course) :
    List Node → List Value → Course
  | [], _ => []
  | n :: ns, frames => courseNode source included n frames ++ courseNodes source included ns frames

end

/-- The visits of what is included under a name: none if there is no such source. -/
def courseIncluded (includes : String → Option String) (course : String → List Value → Course)
    (name : String) (frames : List Value) : Course :=
  match includes name with
  | none => []
  | some source => course source frames

/-- **The visits of a source**, with so many levels left, where `includes` has the sources of the
templates that may be included. -/
def courseSource (includes : String → Option String) : (depth : Nat) → String → List Value → Course
  | 0, _, _ => [.nested]
  | depth + 1, source, frames =>
    match parse source .null .usual with
    | .ok tree => courseNodes source (courseIncluded includes (courseSource includes depth))
      tree.body frames
    | .error _ => []

/-- The course of a source that is rendered with data by an engine. -/
def Engine.course (c : Engine) (includes : String → Option String) (source : String) (data : Value)
    (locals : Entries) : Course :=
  courseSource includes (depthLimit + 1) source (framesFor (some c) data locals)

/-! ## Faults of visits -/

/-- **The faults of visits.** Those of the template are a filter, for there is nothing to be called,
and a table or a sequence in the place of text; they carry the name of the template in which they
stand. The others are what is beyond the means of a program: numbers with too many digits, a text
that the charset refuses, a range without a length, and too many levels. -/
inductive Visit.Raises : Escaping → Visit → Fault → Prop
  | unknownFilter {escaping : Escaping} {name filter : String} {filters : List String}
    {place : Place} {source : String} {templateName : Value} (isName : templateName.IsName) :
    Raises escaping (.filtered name (filter :: filters) place source)
      (.template (.unrenderable
        (FilterSite.unknown ⟨name, filter :: filters, place, templateName, source⟩ filter)))
  | unprintable {escaping : Escaping} {v : Value} {expression : String} {line : Nat}
    {escaped : Bool} {templateName : Value} (kind : (v.isMapping || v.isSequence) = true)
    (writable : v.isUnwritable = false) (isName : templateName.IsName) :
    Raises escaping (.written v expression line escaped)
      (.template (.unrenderable (v.unprintable ⟨some expression, templateName, some line⟩)))
  | unwritable {escaping : Escaping} {v : Value} {expression : String} {line : Nat}
    {escaped : Bool} (unwritable : v.isUnwritable = true) :
    Raises escaping (.written v expression line escaped) .wrongValue
  | unescaped {charset : String} {v : Value} {expression : String} {line : Nat} {text : String}
    {e : EscapeFailure} (written : v.write {} = .ok text) (nonempty : text ≠ "")
    (refused : escape charset text = .error e) :
    Raises (.markup charset) (.written v expression line true) (.ofEscape e)
  | overlong {escaping : Escaping} {start stop step : Int}
    (long : sizeLimit ≤ rangeLength start stop step) :
    Raises escaping (.tested (.range start stop step)) .overflow
  | tooDeep {escaping : Escaping} : Raises escaping .nested .tooDeep

/-- **A name that stands for nothing has no fault**, neither where its value is written nor where it
is tested. -/
theorem Visit.not_raises_missing (escaping : Escaping) (e : Fault) :
    (∀ expression line escaped,
      ¬ (written .missing expression line escaped).Raises escaping e) ∧
    ¬ (tested .missing).Raises escaping e := by
  refine ⟨fun expression line escaped h => ?_, fun h => nomatch h⟩
  cases h with
  | unprintable kind => simp [Value.isMapping, Value.isSequence] at kind
  | unwritable unwritable => simp [Value.isUnwritable] at unwritable
  | unescaped written nonempty => exact nonempty (Except.ok.inj written).symm

/-- **No visit of the course has a fault.** -/
def Course.IsClear (escaping : Escaping) (course : Course) : Prop :=
  ∀ visit ∈ course, ∀ e, ¬ visit.Raises escaping e

/-- **The first fault of a course.** -/
def Course.StopsWith (escaping : Escaping) (course : Course) (e : Fault) : Prop :=
  ∃ before visit after, course = before ++ visit :: after ∧ Course.IsClear escaping before ∧
    visit.Raises escaping e

namespace Course

variable {escaping : Escaping} {course course' : Course} {e : Fault}

theorem isClear_nil : IsClear escaping [] := by simp [IsClear]

theorem IsClear.append (h : course.IsClear escaping) (h' : course'.IsClear escaping) :
    IsClear escaping (course ++ course') := by
  intro visit hvisit
  rcases List.mem_append.1 hvisit with hvisit | hvisit
  · exact h visit hvisit
  · exact h' visit hvisit

theorem isClear_singleton {visit : Visit} (h : ∀ e, ¬ visit.Raises escaping e) :
    IsClear escaping [visit] := by
  simpa [IsClear] using h

/-- The first fault is that of the first part, if this part has one. -/
theorem StopsWith.append_left (h : course.StopsWith escaping e) (course' : Course) :
    StopsWith escaping (course ++ course') e := by
  obtain ⟨before, visit, after, rfl, hclear, hraises⟩ := h
  exact ⟨before, visit, after ++ course', by simp, hclear, hraises⟩

/-- The first fault is that of the second part, if the first part has none. -/
theorem StopsWith.append_right (h : course'.StopsWith escaping e) (hclear : course.IsClear escaping) :
    StopsWith escaping (course ++ course') e := by
  obtain ⟨before, visit, after, rfl, hbefore, hraises⟩ := h
  exact ⟨course ++ before, visit, after, by simp, hclear.append hbefore, hraises⟩

theorem stopsWith_cons {visit : Visit} (h : visit.Raises escaping e) (course : Course) :
    StopsWith escaping (visit :: course) e :=
  ⟨[], visit, course, rfl, isClear_nil, h⟩

end Course

/-! ## Actions that take a course -/

/-- **Ends of rendering, if the course is known**: a text is written, if no visit has a fault; else
there is the fault of the first visit that has one. -/
inductive EndsOver (sc : Scope) (c : Engine) (course : Course) (s : Session) :
    EStateM.Result Fault Session Output → Prop
  | ok {x : String} {s' : Session} (clear : course.IsClear c.escaping)
    (frames : s'.frames = s.frames) (store : s'.store.IsSound sc c False) :
    EndsOver sc c course s (.ok (some x) s')
  | error {e : Fault} {s' : Session} (stops : course.StopsWith c.escaping e) :
    EndsOver sc c course s (.error e s')

/-- **An action that takes a course**, in sound sessions with the given frames. -/
def Takes (sc : Scope) (c : Engine) (frames : List Value) (course : Course) (act : Action Output) :
    Prop :=
  ∀ s : Session, s.frames = frames → s.store.IsSound sc c False → EndsOver sc c course s (act s)

variable {sc : Scope} {c : Engine} {frames : List Value}

namespace Takes

variable {course course' : Course} {act act' : Action Output}

theorem pure (x : String) : Takes sc c frames [] (Pure.pure (some x)) :=
  fun _ _ hs => .ok Course.isClear_nil rfl hs

/-- What comes first may leave the session as it is. -/
theorem of_ok {α : Type} {act : Action α} {next : α → Action Output} {a : α}
    (hact : ∀ s : Session, s.frames = frames → act s = .ok a s)
    (h : Takes sc c frames course (next a)) : Takes sc c frames course (act >>= next) := by
  intro s hframes hs
  rw [bind_of_ok (hact s hframes)]
  exact h s hframes hs

theorem of_error {α : Type} {act : Action α} {next : α → Action Output} {e : Fault}
    (hact : ∀ s : Session, s.frames = frames → act s = .error e s)
    (h : course.StopsWith c.escaping e) : Takes sc c frames course (act >>= next) := by
  intro s hframes hs
  rw [bind_of_error (hact s hframes)]
  exact .error h

/-- A visit without faults in front. -/
theorem cons {visit : Visit} (hvisit : ∀ e, ¬ visit.Raises c.escaping e)
    (h : Takes sc c frames course act) : Takes sc c frames (visit :: course) act := by
  intro s hframes hs
  have hrun := h s hframes hs
  generalize act s = r at hrun
  cases hrun with
  | ok clear frames store => exact .ok ((Course.isClear_singleton hvisit).append clear) frames store
  | error stops => exact .error (stops.append_right (Course.isClear_singleton hvisit))

/-- **One after the other.** -/
theorem append (h : Takes sc c frames course act) (h' : Takes sc c frames course' act') :
    Takes sc c frames (course ++ course') (do
      let first ← act
      let others ← act'
      Pure.pure (first.append others)) := by
  intro s hframes hs
  have hfirst := h s hframes hs
  generalize hact : act s = r at hfirst
  cases hfirst with
  | error stops =>
    rw [bind_of_error hact]
    exact .error (stops.append_left course')
  | @ok x s₁ clear hframes₁ hs₁ =>
    rw [bind_of_ok hact]
    have hothers := h' s₁ (hframes₁.trans hframes) hs₁
    generalize hact' : act' s₁ = r at hothers
    cases hothers with
    | error stops =>
      rw [bind_of_error hact']
      exact .error (stops.append_right clear)
    | ok clear' hframes₂ hs₂ =>
      rw [bind_of_ok hact']
      exact .ok (clear.append clear') (hframes₂.trans hframes₁) hs₂

/-- One more frame on the stack. -/
theorem withFrame {frame : Value} (h : Takes sc c (frame :: frames) course act) :
    Takes sc c frames course (withFrame frame act) := by
  intro s hframes hs
  have hinner := h (s.framed (frame :: s.frames)) (by rw [← hframes]; rfl) hs
  unfold Mustache.withFrame
  rw [Session.framed] at hinner
  generalize act { s with frames := frame :: s.frames } = r at hinner
  cases hinner with
  | ok clear hframes' hs' => exact .ok clear (by rw [hframes']; rfl) hs'
  | error stops => exact .error stops

/-- The lines of what is written are indented. -/
theorem lines {act : Action String} (indent : String)
    (h : Takes sc c frames course (do Pure.pure (some (← act)))) :
    Takes sc c frames course (do Pure.pure (some (indentLines (← act) indent))) := by
  intro s hframes hs
  have hinner := h s hframes hs
  cases hact : act s with
  | ok x s₁ =>
    rw [bind_of_ok hact] at hinner ⊢
    cases hinner with
    | ok clear hframes' hs' => exact .ok clear hframes' hs'
  | error e s₁ =>
    rw [bind_of_error hact] at hinner ⊢
    cases hinner with
    | error stops => exact .error stops

end Takes

/-! ## Values -/

/-- A value that has a text is neither a table nor a sequence, and no number with too many
digits. -/
theorem Value.of_write_eq_ok {v : Value} {o : Occasion} {text : String} (h : v.write o = .ok text) :
    (v.isMapping || v.isSequence) = false ∧ v.isUnwritable = false := by
  unfold write at h
  split at h
  case h_5 =>
    split at h
    · simp at h
    · next hkind =>
      unfold plainOrFault at h
      split at h
      · simp at h
      · next hwritable => exact ⟨by simpa using hkind, by simpa using hwritable⟩
  all_goals exact ⟨rfl, rfl⟩

/-- Why a value has no text. -/
theorem Value.of_write_eq_error {v : Value} {o : Occasion} {e : Fault}
    (hname : o.templateName.IsName) (h : v.write o = .error e) :
    (v.isMapping || v.isSequence) = true ∧ v.isUnwritable = false ∧
        e = .template (.unrenderable (v.unprintable o)) ∨
      v.isUnwritable = true ∧ e = .wrongValue := by
  unfold write at h
  split at h
  case h_5 =>
    split at h
    · next hkind =>
      have hplace : Fault.ofPlace? (v.unprintable o).location? = none :=
        Unrenderable.ofPlace?_location? hname
      have hvalues : ((v.unprintable o).values.any fun entry => entry.2.isUnwritable) =
          v.isUnwritable := Bool.or_false _
      unfold Fault.unrenderable at h
      rw [hplace] at h
      dsimp only at h
      rw [hvalues] at h
      cases hwritable : v.isUnwritable with
      | true =>
        rw [hwritable, if_pos rfl] at h
        exact .inr ⟨rfl, (Except.error.inj h).symm⟩
      | false =>
        rw [hwritable, if_neg Bool.false_ne_true] at h
        exact .inl ⟨hkind, rfl, (Except.error.inj h).symm⟩
    · unfold plainOrFault at h
      split at h
      · next hunwritable => exact .inr ⟨hunwritable, (Except.error.inj h).symm⟩
      · simp at h
  all_goals simp at h

/-- It can be told of all values but ranges that are too long whether they count as empty. -/
theorem Value.truth_eq_error_iff {v : Value} {e : Fault} : v.truth = .error e ↔
    ∃ start stop step, v = .range start stop step ∧ sizeLimit ≤ rangeLength start stop step ∧
      e = .overflow := by
  constructor
  · intro h
    cases v with
    | range start stop step =>
      unfold truth lengthOfRange at h
      dsimp only at h
      split at h
      · simp [Except.map] at h
      · next hlong => exact ⟨start, stop, step, rfl, not_lt.1 hlong, (Except.error.inj h).symm⟩
    | _ => simp [truth] at h
  · rintro ⟨start, stop, step, rfl, hlong, rfl⟩
    unfold truth lengthOfRange
    dsimp only
    rw [if_neg (not_lt.2 hlong)]
    rfl

/-! ## Nodes -/

section

variable (hescape : c.escape = none) {t : Template} (hname : t.name.IsName)

include hname

include hescape in
/-- A value is written and escaped, or has a fault. -/
theorem takes_write (below : Below) (v : Value) (expression : String) (line : Nat)
    (escaped : Bool) : Takes sc c frames [.written v expression line escaped] (do
      let text ← liftFault (v.write ⟨some expression, t.name, some (line : Int)⟩)
      escapeText below (if escaped then c.escaping else .off) text) := by
  cases hwrite : v.write ⟨some expression, t.name, some (line : Int)⟩ with
  | error e =>
    refine .of_error (fun s _ => rfl) (Course.stopsWith_cons ?_ [])
    rcases Value.of_write_eq_error hname hwrite with ⟨hkind, hwritable, rfl⟩ | ⟨hunwritable, rfl⟩
    · exact .unprintable hkind hwritable hname
    · exact .unwritable hunwritable
  | ok text =>
    obtain ⟨hkind, hwritable⟩ := Value.of_write_eq_ok hwrite
    have htext : v.write {} = .ok text := write_eq_ok_of_eq_ok _ hwrite
    refine .of_ok (a := text) (fun s _ => rfl) ?_
    -- Only a text that is escaped for a charset can still have a fault.
    have hclear (h : ∀ charset, escaped = true → c.escaping = .markup charset → text ≠ "" →
        ∀ e, escape charset text ≠ .error e) (x : String) :
        Takes sc c frames [.written v expression line escaped] (pure (some x)) := by
      refine .cons (fun e hraises => ?_) (.pure x)
      generalize hescaping : c.escaping = escaping at hraises
      cases hraises with
      | unprintable hkind' => simp [hkind'] at hkind
      | unwritable hunwritable => simp [hunwritable] at hwritable
      | unescaped htext' hnonempty hrefused =>
        obtain rfl := Except.ok.inj (htext.symm.trans htext')
        exact h _ rfl hescaping hnonempty _ hrefused
    unfold escapeText
    split
    · next hempty => exact hclear (fun _ _ _ hnonempty => absurd (beq_iff_eq.1 hempty) hnonempty) text
    · next hnonempty =>
      cases escaped with
      | false => exact hclear (fun _ h => nomatch h) text
      | true =>
        rw [if_pos rfl]
        have hescaping : c.escaping = .off ∨ c.escaping = .markup c.charset := by
          unfold Engine.escaping Engine.escapingFor
          rw [hescape]
          cases c.autoescape
          · exact .inl rfl
          · exact .inr rfl
        rcases hescaping with hescaping | hescaping
        · rw [hescaping]
          exact hclear (fun _ _ h => by simp [hescaping] at h) text
        · rw [hescaping]
          dsimp only
          cases hresult : escape c.charset text with
          | ok x =>
            refine hclear (fun charset _ h _ e hrefused => ?_) x
            obtain rfl : c.charset = charset := by simpa [hescaping] using h
            simp [hresult] at hrefused
          | error e =>
            refine fun s _ _ => .error (Course.stopsWith_cons ?_ [])
            rw [hescaping]
            exact .unescaped htext (by simpa using hnonempty) hresult

variable (hframes : ∀ frame ∈ frames, frame.isInert = true)

include hframes

/-- A tag with filters is refused, whatever follows. -/
theorem takes_filtered (below : Below) (name : String) {filters : List String}
    (hfilters : filters ≠ []) (place : Place) {next : Value → Action Output} :
    Takes sc c frames [.filtered name filters place t.source]
      (findFiltered below ⟨name, filters, place, t.name, t.source⟩ >>= next) := by
  cases filters with
  | nil => exact absurd rfl hfilters
  | cons filter rest =>
    have hplace : Fault.ofPlace?
        (FilterSite.unknown ⟨name, filter :: rest, place, t.name, t.source⟩ filter).location? =
          none :=
      Unrenderable.ofPlace?_location? hname
    refine .of_error (e := .template (.unrenderable
      (FilterSite.unknown ⟨name, filter :: rest, place, t.name, t.source⟩ filter)))
      (fun s hs => ?_) (Course.stopsWith_cons (.unknownFilter hname) [])
    subst hs
    rw [findFiltered_eq_unknown hframes]
    unfold Fault.unrenderable
    rw [hplace]
    rfl

include hescape in
/-- An interpolation is the visit of its value. -/
theorem takes_renderInterpolation (hescaping : t.escaping = c.escaping) (below : Below)
    (place : Place) (name : String) (escaped : Bool) (filters : List String)
    (delims : Delimiters) :
    Takes sc c frames
      (courseInterpolation t.source place name escaped filters delims frames)
      (renderInterpolation below t place name escaped filters delims) := by
  unfold courseInterpolation renderInterpolation
  split
  · next hfilters =>
    subst hfilters
    refine .of_ok (a := valueOf name frames) (fun s hs => ?_) ?_
    · subst hs
      exact findFiltered_eq_ok hframes below name place t.name t.source
    · have hlambda := Value.isLambda_of_isInert (isInert_valueOf hframes name)
      rw [hescaping]
      simp only [hlambda, Bool.false_eq_true, if_false]
      exact takes_write hescape hname below _ _ _ _
  · next hfilters => exact takes_filtered hname hframes below name hfilters place

omit hframes hname in
/-- What is repeated for items visits the same tags for each of them. -/
theorem takes_renderItems {body : List Value → Course} {act : Action Output} {items : List Value}
    (h : ∀ item ∈ items, Takes sc c (item :: frames) (body (item :: frames)) act) :
    Takes sc c frames (items.flatMap fun item => body (item :: frames)) (renderItems act items) := by
  induction items with
  | nil => exact .pure ""
  | cons item items ih =>
    rw [List.forall_mem_cons] at h
    rw [List.flatMap_cons]
    exact .append (.withFrame h.1) (ih h.2)

/-- A section visits its value, and then what is between its tags. -/
theorem takes_renderSection (below : Below) (head : Section) {body : List Value → Course}
    {act : Action Output} (h : ∀ frames : List Value, (∀ frame ∈ frames, frame.isInert = true) →
      Takes sc c frames (body frames) act) :
    Takes sc c frames (courseSection t.source head body frames)
      (renderSection below t head act) := by
  unfold courseSection renderSection
  split
  · next hfilters =>
    have hinert := isInert_valueOf hframes head.name
    refine .of_ok (a := valueOf head.name frames) (fun s hs => ?_) ?_
    · subst hs
      rw [hfilters]
      exact findFiltered_eq_ok hframes below head.name head.place t.name t.source
    · have hlambda := Value.isLambda_of_isInert hinert
      simp only [hlambda, Bool.false_eq_true, if_false]
      cases htruth : (valueOf head.name frames).truth with
      | error e =>
        obtain ⟨start, stop, step, hv, hlong, rfl⟩ := Value.truth_eq_error_iff.1 htruth
        have hstops : Course.StopsWith c.escaping [.tested (valueOf head.name frames)]
            .overflow := by
          rw [hv]
          exact Course.stopsWith_cons (.overlong hlong) []
        cases head.inverted
        · exact .of_error (fun _ _ => rfl) hstops
        · exact .of_error (fun _ _ => rfl) hstops
      | ok shown =>
        refine .cons (fun e hraises => ?_) ?_
        · generalize valueOf head.name frames = v at htruth hraises
          generalize c.escaping = escaping at hraises
          cases hraises with
          | overlong hlong =>
            rw [Value.truth_eq_error_iff.2 ⟨_, _, _, rfl, hlong, rfl⟩] at htruth
            simp at htruth
        · have hshown (items : List Value) (hitems : ∀ item ∈ items, item.isInert = true) :
              Takes sc c frames (items.flatMap fun item => body (item :: frames))
                (renderItems act items) :=
            takes_renderItems fun item hitem =>
              h (item :: frames) (List.forall_mem_cons.2 ⟨hitems item hitem, hframes⟩)
          cases head.inverted with
          | true =>
            refine .of_ok (fun _ _ => rfl) ?_
            cases shown
            · exact h frames hframes
            · exact .pure ""
          | false =>
            refine .of_ok (fun _ _ => rfl) ?_
            cases shown
            · exact .pure ""
            · exact hshown _ fun item hitem => Value.isInert_of_mem_items hinert hitem
  · next hfilters => exact takes_filtered hname hframes below head.name hfilters head.place

end

/-! ## Included templates -/

/-- A template takes the course of its source at a level. -/
def TakesSources (sc : Scope) (c : Engine) (includes : String → Option String) (depth : Nat) :
    Prop :=
  ∀ frames : List Value, (∀ frame ∈ frames, frame.isInert = true) → ∀ source t, t.IsOf c source →
    Takes sc c frames (courseSource includes depth source frames)
      (do pure (some (← (level depth).render t)))

/-- **Sources that have trees**, all those that may be included. -/
def Parsed (includes : String → Option String) : Prop :=
  ∀ name source, includes name = some source → ∃ tree, parse source .null .usual = .ok tree

/-- **An included template takes the course of its source**, and nothing is visited if it is
missing. -/
theorem takes_renderInclusion {includes : String → Option String}
    (hincludes : c.Includes sc includes) (hparsed : Parsed includes) {depth : Nat}
    (h : TakesSources sc c includes depth) (hframes : ∀ frame ∈ frames, frame.isInert = true)
    {t : Template} (ht : t.engine = c.id) (name indent : String) :
    Takes sc c frames (courseIncluded includes (courseSource includes depth) name frames)
      (renderInclusion (level depth) t name indent) := by
  intro s hs hstore
  unfold courseIncluded
  cases hsource : includes name with
  | none =>
    obtain ⟨records, hrun⟩ :=
      exists_renderInclusion_eq_empty hincludes hstore ht hsource indent depth
    rw [hrun]
    exact .ok Course.isClear_nil rfl hstore
  | some source =>
    obtain ⟨n, hname, hinclusion⟩ :=
      exists_renderInclusion_eq_loadSource hincludes hstore ht hsource indent depth
    rw [hinclusion]
    have hyields := yields_loadSource (hincludes.known name source hsource) hname (level depth) s
      hstore
    generalize hrun : loadSource (level depth) (.text source) n s = r at hyields
    cases hyields with
    | @ok t' s₁ hof beside =>
      rw [bind_of_ok hrun]
      have hinner := (h frames hframes source t' hof).lines indent s₁ (beside.frames.trans hs)
        beside.store
      dsimp only
      generalize (do pure (some (indentLines (← (level depth).render t') indent)) :
        Action Output) s₁ = r at hinner ⊢
      cases hinner with
      | ok clear hframes' hs' => exact .ok clear (hframes'.trans beside.frames) hs'
      | error stops => exact .error stops
    | refused refused _ =>
      obtain ⟨tree, htree⟩ := hparsed name source hsource
      rw [parse_eq_ok_of_name htree n] at refused
      simp at refused
    | unwritten _ may => exact may.elim

/-! ## Levels -/

mutual

/-- A node takes its course, if the sources that it may include do. -/
theorem takes_renderNode {includes : String → Option String} (hincludes : c.Includes sc includes)
    (hparsed : Parsed includes) (hescape : c.escape = none) {depth : Nat}
    (h : TakesSources sc c includes depth) {t : Template} {source : String} (ht : t.IsOf c source)
    {frames : List Value} (hframes : ∀ frame ∈ frames, frame.isInert = true) :
    (n : Node) → .foreign ∉ n.marks →
      Takes sc c frames
        (courseNode t.source (courseIncluded includes (courseSource includes depth)) n frames)
        (renderNode (level depth) t n)
  | .text _ value, _ => .pure value
  | .interpolation place name escaped filters delims, _ =>
    takes_renderInterpolation hescape ht.name hframes ht.escaping _ place name escaped filters
      delims
  | .block head body, hmarks =>
    takes_renderSection ht.name hframes (level depth) head fun _ hframes =>
      takes_renderNodes hincludes hparsed hescape h ht hframes body fun hmem =>
        hmarks (List.mem_cons_of_mem _ (List.mem_append_left _ hmem))
  | .inclusion _ name indent, _ =>
    takes_renderInclusion hincludes hparsed h hframes ht.engine name indent
  | .comment _ _, _ => .pure ""
  | .delimiterChange _ _, _ => .pure ""
  | .pragma _ _, _ => .pure ""
  | .flawed _, hmarks => absurd List.mem_cons_self hmarks

/-- **Nodes take their course**, if the sources that they may include do. -/
theorem takes_renderNodes {includes : String → Option String} (hincludes : c.Includes sc includes)
    (hparsed : Parsed includes) (hescape : c.escape = none) {depth : Nat}
    (h : TakesSources sc c includes depth) {t : Template} {source : String} (ht : t.IsOf c source)
    {frames : List Value} (hframes : ∀ frame ∈ frames, frame.isInert = true) :
    (ns : List Node) → .foreign ∉ marksOf ns →
      Takes sc c frames
        (courseNodes t.source (courseIncluded includes (courseSource includes depth)) ns frames)
        (renderNodes (level depth) t ns)
  | [], _ => .pure ""
  | n :: ns, hmarks =>
    .append
      (takes_renderNode hincludes hparsed hescape h ht hframes n fun hmem =>
        hmarks (List.mem_append_left _ hmem))
      (takes_renderNodes hincludes hparsed hescape h ht hframes ns fun hmem =>
        hmarks (List.mem_append_right _ hmem))

end

section

variable {includes : String → Option String} (hincludes : c.Includes sc includes)
  (hparsed : Parsed includes) (hescape : c.escape = none)

include hincludes hparsed hescape

/-- **At every level, templates take the courses of their sources.**

**Proof sketch.** Induction on the number of levels. Where none is left, the only visit has the
fault of too many levels. -/
theorem takes_level (depth : Nat) : TakesSources sc c includes depth := by
  induction depth with
  | zero =>
    exact fun _ _ _ _ _ => .of_error (fun _ _ => rfl) (Course.stopsWith_cons .tooDeep [])
  | succ depth ih =>
    intro frames hframes source t ht s hs hstore
    have hnodes := takes_renderNodes hincludes hparsed hescape ih ht hframes t.tree.body
      (foreign_notMem_of_parse ht.tree) s hs hstore
    rw [courseSource, ht.tree]
    dsimp only
    rw [← ht.source]
    have hrender : (level (depth + 1)).render t s = renderBody (level depth) t s := rfl
    generalize hact : renderNodes (level depth) t t.tree.body s = r at hnodes
    cases hnodes with
    | ok clear hframes' hs' =>
      rw [bind_of_ok (hrender.trans (renderBody_eq_ok_iff.2 hact))]
      exact .ok clear hframes' hs'
    | @error e s₁ stops =>
      have hfault : renderBody (level depth) t s = .error e s₁ := by
        unfold renderBody
        rw [bind_of_error hact]
      rw [bind_of_error (hrender.trans hfault)]
      exact .error stops

/-- **Rendering takes the course of its source.** If no visit has a fault, a text is rendered; and
otherwise rendering ends in the fault of the first visit that has one. So the only faults are those
of visits: names, paths and included templates that are not there have none. -/
theorem Template.render_takes_course {data : Value} {locals : Entries}
    (hfree : c.CallableFree data locals) {t : Template} {source : String} (ht : t.IsOf c source)
    {s : Session} (hs : s.store.IsSound sc c False) :
    (c.course includes source data locals).IsClear c.escaping ∧
        (∃ x s', t.render data locals s = .ok x s') ∨
      ∃ e, (c.course includes source data locals).StopsWith c.escaping e ∧
        ∃ s', t.render data locals s = .error e s' := by
  have hframes := framesFor_of_isSound ht.engine hs data locals
  have hends := takes_level hincludes hparsed hescape (depthLimit + 1) _ hfree.isInert_of_mem source
    t ht (s.framed (framesFor (s.engineOf? t) data locals)) hframes hs
  have hrender : (level (depthLimit + 1)).render t = renderTemplate t := rfl
  have hrun : t.render data locals s =
      withFrames (framesFor (s.engineOf? t) data locals) (renderTemplate t) s := rfl
  rw [hrender] at hends
  rw [hrun]
  unfold withFrames
  rw [Session.framed] at hends
  cases hact : renderTemplate t { s with frames := framesFor (s.engineOf? t) data locals } with
  | ok x s₁ =>
    rw [bind_of_ok hact] at hends
    cases hends with
    | ok clear _ _ => exact .inl ⟨clear, _, _, rfl⟩
  | error e s₁ =>
    rw [bind_of_error hact] at hends
    cases hends with
    | error stops => exact .inr ⟨e, stops, _, rfl⟩

end

/-- A range with more items than there are numbers for a length. -/
example : (match (Template.made (.tabled "p" "") "\x7b\x7b^r\x7d\x7dx\x7b\x7b/r\x7d\x7d").render
      .null [(.text "r", .range 0 sizeLimit 1)] (.unused (.tabled "p" "")) with
    | .error .overflow _ => true
    | _ => false) = true := by
  decide +kernel

/-- Whether a run has ended in a fault. -/
def hasFailed {α : Type} : EStateM.Result Fault Session α → Bool
  | .ok _ _ => false
  | .error _ _ => true

/-- A path with an empty part, a template that is missing, and a table in the place of text. -/
theorem Template.render_takes_course_table : ∃ t : Template,
    t.source = "\x7b\x7ba..b\x7d\x7d\x7b\x7b>q\x7d\x7d\x7b\x7b>p\x7d\x7d" ∧
      ∃ e, Course.StopsWith (Engine.tabled "p" "\x7b\x7bx\x7d\x7d").escaping
          ((Engine.tabled "p" "\x7b\x7bx\x7d\x7d").course
            ([("p", "\x7b\x7bx\x7d\x7d")].lookup ·) t.source .null [(.text "x", .dict [])]) e ∧
        ∃ s', t.render .null [(.text "x", .dict [])]
          (.unused (.tabled "p" "\x7b\x7bx\x7d\x7d")) = .error e s' := by
  let c : Engine := .tabled "p" "\x7b\x7bx\x7d\x7d"
  let t : Template := .made c "\x7b\x7ba..b\x7d\x7d\x7b\x7b>q\x7d\x7d\x7b\x7b>p\x7d\x7d"
  have hparsed : Parsed ([("p", "\x7b\x7bx\x7d\x7d")].lookup ·) := by
    intro name source hsource
    obtain rfl : "\x7b\x7bx\x7d\x7d" = source := by
      dsimp only at hsource
      rw [List.lookup_cons] at hsource
      split at hsource
      · exact Option.some.inj hsource
      · simp at hsource
    exact exists_eq_ok_of_isSome_toOption (by decide +kernel)
  have hfree : c.CallableFree .null [(.text "x", .dict [])] := ⟨by decide, by decide, by decide⟩
  have hfails : hasFailed (t.render .null [(.text "x", .dict [])] (.unused c)) = true := by
    decide +kernel
  have hof : t.IsOf c "\x7b\x7ba..b\x7d\x7d\x7b\x7b>q\x7d\x7d\x7b\x7b>p\x7d\x7d" :=
    Template.isOf_made c (by decide +kernel)
  refine ⟨t, rfl, ?_⟩
  rcases Template.render_takes_course (Engine.includes_tabled _ _) hparsed rfl hfree hof
    (Session.isSound_unused _ _) with ⟨-, x, s', hrun⟩ | hstops
  · rw [hrun] at hfails
    simp [hasFailed] at hfails
  · exact hstops

end Mustache
