import Mustache.Tree
import Mustache.Value.Printed

/-!
# Templates

A template is a tree together with what is needed to render it: the source, which lambdas are
shown, the name, which errors mention, and how interpolated values are escaped.

## Main definitions

* `Mustache.Escaping` — how interpolated values are escaped.
* `Mustache.Template` — a template that is ready to be rendered.
-/

namespace Mustache

/-- How interpolated values are escaped. -/
inductive Escaping where
  /-- Not at all. -/
  | off
  /-- For markup in the named charset. -/
  | markup (charset : String)
  /-- By a callable. -/
  | custom (f : Value)
  deriving Inhabited

/-- A template that is ready to be rendered. -/
structure Template where
  /-- Tells the template from every other one. -/
  id : Nat
  /-- The number of the engine that has made the template. -/
  engine : Nat
  /-- The name, null if there is none: text as a rule, but a loader may give it any value. -/
  name : Value
  /-- The key under which the template is kept. -/
  className : String
  source : String
  tree : Tree
  escaping : Escaping
  deriving Inhabited

/-- A short rendition of the template: its name, or else its key. -/
def Template.summary (t : Template) : String :=
  "<Template " ++ (if t.name.isVacant then t.className else t.name.plain) ++ ">"

end Mustache
