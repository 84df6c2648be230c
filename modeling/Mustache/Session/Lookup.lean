import Mustache.Session.Call

/-!
# Looking names up

A name is looked up in the frames of the session from the top down. A name with points is a path:
its first part is looked up in the frames, and each further part in the value found so far. A lone
point stands for the topmost frame.

## Main definitions

* `Mustache.topFrame` — the topmost frame.
* `Mustache.findName` — the value of a name.
* `Mustache.findFiltered` — the value of a name, passed through filters.
-/

namespace Mustache

/-- The topmost frame. -/
def topFrame : Action Value := do pure ((← get).frames.headD .missing)

/-- What a name stands for in the first of the frames that knows it. -/
def findIn (below : Below) (name : String) : List Value → Action Value
  | [] => pure .missing
  | frame :: frames => do
    let v ← frame.memberNamed below name
    if v.isMissing then findIn below name frames else pure v

/-- Follows the further parts of a path. -/
def followPath (below : Below) (v : Value) : List String → Action Value
  | [] => pure v
  | part :: parts =>
    if v.isMissing then pure v
    else do
      let w ← v.memberNamed below part
      followPath below w parts

/-- The value of a name. -/
def findName (below : Below) (name : String) : Action Value :=
  if name == "." then topFrame
  else
    match Text.fieldsOf '.' name with
    | [] => pure .missing
    | first :: rest => do
      let v ← findIn below first (← get).frames
      followPath below v rest

/-- Where a tag with filters stands. -/
structure FilterSite where
  name : String
  filters : List String
  place : Place
  templateName : Value
  source : String

/-- The error for a filter that cannot be called. -/
def FilterSite.unknown (site : FilterSite) (filter : String) : Unrenderable :=
  { problem := .unknownFilter filter
    expression := some (site.name ++ " | " ++ " | ".intercalate site.filters)
    templateName := site.templateName
    line := some (site.place.line : Int)
    suggestion :=
      some ("Add a callable named '" ++ filter ++ "' to the data or the helpers")
    snippet :=
      if site.source == "" then none
      else some (.around site.source site.place.line Snippet.usualContext
        (some (site.place.column : Int))) }

/-- A value passed through filters, which are names of callables. -/
def applyFilters (below : Below) (site : FilterSite) (v : Value) : List String → Action Value
  | [] => pure v
  | filter :: filters => do
    let f ← findName below filter
    if !f.isLambda then throw (.unrenderable (site.unknown filter))
    let w ← f.call below [v]
    applyFilters below site w filters

/-- The value of a name, passed through the filters of its tag. -/
def findFiltered (below : Below) (site : FilterSite) : Action Value := do
  let v ← findName below site.name
  applyFilters below site v site.filters

end Mustache
