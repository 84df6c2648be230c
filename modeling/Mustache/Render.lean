import Mustache.Escape
import Mustache.Indent
import Mustache.Session.Load
import Mustache.Session.Lookup

/-!
# Rendering

A template is rendered node by node against the frames of the session. A section looks its name
up: a lambda is called with the raw text between the tags, a value that is missing or empty hides
the section, a sequence repeats it for every item, and any other value shows it once; the value or
the item becomes the topmost frame.

## Main definitions

* `Mustache.Output` — what has been written.
* `Mustache.renderNode`, `Mustache.renderNodes` — nodes.
* `Mustache.renderTemplate` — a template against the frames of the session.
* `Mustache.Template.render` — a template with data.

## Implementation notes

Texts of lambdas and included templates are rendered one level deeper. The nodes of one template
are rendered by recursion on the tree; the levels are counted down, and rendering fails when none
is left.
-/

namespace Mustache

/-! ## Output -/

/-- What has been written: text, or `none` if something that is not text is part of it. -/
abbrev Output := Option String

/-- Nothing written. -/
def Output.empty : Output := some ""

/-- One output after the other. -/
def Output.append : Output → Output → Output
  | some s, some t => some (s ++ t)
  | _, _ => none

/-! ## Nodes -/

/-- The text of an interpolated value, escaped. Nothing is not escaped. -/
def escapeText (below : Below) (escaping : Escaping) (text : String) : Action Output :=
  if text == "" then pure (some text)
  else
    match escaping with
    | .off => pure (some text)
    | .markup charset =>
      match escape charset text with
      | .ok s => pure (some s)
      | .error e => throw (.ofEscape e)
    | .custom f => do
      match ← f.call below [.text text] with
      | .text s => pure (some s)
      | _ => pure none

/-- Calls a lambda with a text, and renders the text that it returns under the given
delimiters. -/
def renderLambda (below : Below) (t : Template) (f : Value) (text : String)
    (delims : Delimiters) : Action String := do
  let _ ← engineOf t
  let tag := delims.changeTag?
  let depth := (← get).frames.length
  let helper := Value.helper (← freshId) depth tag
  let result ← f.callLambda below [.text text, helper]
  let source ← liftFault (result.write {})
  let rendered ← loadText source tag
  below.render rendered

/-- An interpolation. -/
def renderInterpolation (below : Below) (t : Template) (place : Place) (name : String)
    (escaped : Bool) (filters : List String) (delims : Delimiters) : Action Output := do
  let v ← findFiltered below ⟨name, filters, place, t.name, t.source⟩
  let text ←
    if v.isLambda then renderLambda below t v name delims
    else
      liftFault (v.write
        { expression := some (delims.opening ++ name ++ delims.closing)
          templateName := t.name
          line := some (place.line : Int) })
  escapeText below (if escaped then t.escaping else .off) text

/-- Outputs for items, each item being the topmost frame meanwhile. -/
def renderItems (act : Action Output) : List Value → Action Output
  | [] => pure Output.empty
  | item :: items => do
    let first ← withFrame item act
    let others ← renderItems act items
    pure (first.append others)

/-- An included template, its lines indented. -/
def renderInclusion (below : Below) (t : Template) (name indent : String) : Action Output := do
  let _ ← engineOf t
  match ← loadPartial? below name with
  | none => pure Output.empty
  | some included => do pure (some (indentLines (← below.render included) indent))

/-- A section, given how to render what is between its tags. -/
def renderSection (below : Below) (t : Template) (head : Section) (body : Action Output) :
    Action Output := do
  let v ← findFiltered below ⟨head.name, head.filters, head.place, t.name, t.source⟩
  if head.inverted then
    if ← liftFault v.truth then pure Output.empty else body
  else if v.isLambda then
    do pure (some (← renderLambda below t v (head.rawBody t.source) head.delims))
  else if ← liftFault v.truth then renderItems body v.items
  else pure Output.empty

/-- A node that cannot be rendered. -/
def renderFlawed : Flaw → Action Output
  | .lacking => throw .noAttribute
  | .wrongKind => throw .wrongKind
  | .notText => pure none

mutual

/-- A node. -/
def renderNode (below : Below) (t : Template) : Node → Action Output
  | .text _ value => pure (some value)
  | .interpolation place name escaped filters delims =>
    renderInterpolation below t place name escaped filters delims
  | .block head body => renderSection below t head (renderNodes below t body)
  | .inclusion _ name indent => renderInclusion below t name indent
  | .comment _ _ | .delimiterChange _ _ | .pragma _ _ => pure Output.empty
  | .flawed flaw => renderFlawed flaw

/-- Nodes in order. -/
def renderNodes (below : Below) (t : Template) : List Node → Action Output
  | [] => pure Output.empty
  | n :: ns => do
    let first ← renderNode below t n
    let others ← renderNodes below t ns
    pure (first.append others)

end

/-- The nodes of a template. It is a fault if something that is not text has been written. -/
def renderBody (below : Below) (t : Template) : Action String := do
  match ← renderNodes below t t.tree.body with
  | some text => pure text
  | none => throw .wrongKind

/-! ## Levels -/

/-- What can be asked of a level when some more lie below it. -/
def level : (depth : Nat) → Below
  | 0 =>
    { render := fun _ => throw .tooDeep
      call := fun _ _ _ => throw .tooDeep }
  | depth + 1 =>
    { render := renderBody (level depth)
      call := Callable.invoke (level depth) }

/-- How deeply templates can be nested. -/
def depthLimit : Nat := 1000

/-- The level at which rendering starts. -/
def ground : Below := level depthLimit

/-- A template against the frames of the session. -/
def renderTemplate (t : Template) : Action String := renderBody ground t

/-- A template against the frames of the session, its lines indented. -/
def renderIndented (t : Template) (indent : String) : Action String := do
  pure (indentLines (← renderTemplate t) indent)

/-- The frames for a template with data: the helpers of the engine at the bottom, then the data,
then the local variables. -/
def framesFor (e : Option Engine) (data : Value) (locals : Entries) : List Value :=
  let helpers := match e with
    | some e => if e.helpers.entries.isEmpty then [] else [.dict e.helpers.entries]
    | none => []
  let data := match data with
    | .null => []
    | v => [v]
  let locals := if locals.isEmpty then [] else [.dict locals]
  locals ++ data ++ helpers

/-- An action with other frames than those of the session. -/
def withFrames {α : Type} (frames : List Value) (act : Action α) : Action α := fun s =>
  match act { s with frames } with
  | .ok a s' => .ok a { s' with frames := s.frames }
  | .error e s' => .error e { s' with frames := s.frames }

namespace Template

/-- Renders a template with data and local variables. -/
def render (t : Template) (data : Value) (locals : Entries) : Action String := do
  withFrames (framesFor ((← get).engineOf? t) data locals) (renderTemplate t)

end Template

end Mustache
