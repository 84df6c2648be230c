import Mustache.Files

/-!
# Patterns for paths

A pattern for paths is taken apart at its slashes. Each part stands for a step: a name leads to
just that name, a part with wildcards to every name that fits, and two asterisks to the directory
itself and all directories below it.

## Main definitions

* `Mustache.PathStep` — a step of a pattern.
* `Mustache.PathPattern.ofText?` — the pattern that a text stands for.
* `Mustache.PathPattern.select` — the paths below a directory to which a pattern leads.
-/

namespace Mustache

/-- A step of a pattern for paths. -/
inductive PathStep where
  /-- A name, which may be the parent step. -/
  | name (name : String)
  /-- Every name that fits. -/
  | fitting (pieces : List Text.Wildcard)
  /-- The directory itself and all directories below it. -/
  | descent
  deriving DecidableEq, Repr, Inhabited

/-- A pattern for paths. -/
structure PathPattern where
  steps : List PathStep
  /-- Whether only directories will do. -/
  directoriesOnly : Bool
  deriving DecidableEq, Repr, Inhabited

/-- The step that a part of a pattern stands for. Two asterisks have to stand by themselves. -/
def PathStep.ofText? (part : String) : Option PathStep :=
  if part == "**" then some .descent
  else if (Text.cut? ['*', '*'] part.toList).isSome then none
  else if part.any fun c => c == '*' || c == '?' || c == '[' then
    some (.fitting (Text.wildcards part.toList))
  else some (.name part)

namespace FileTree

/-- The paths of the directories below a place, relative to it; it is among them itself. -/
def directoriesBelow (t : FileTree) (place : List String) : List (List String) :=
  [] :: t.entries.filterMap fun e =>
    if e.2.isDirectory && place.isPrefixOf e.1 && e.1.length > place.length then
      some (e.1.drop place.length)
    else none

/-- The names in a directory to which a step leads, given which entries will do. -/
def namesFor (t : FileTree) (base : List String) (pieces : List Text.Wildcard)
    (p : Entry → Bool) : Except FileFault (List String) :=
  match t.find (.below base) with
  | .error fault => .error fault
  | .ok (_, .file _ _) => .ok []
  | .ok (place, .directory) =>
    .ok ((t.namesAt place).filter fun name =>
      Text.fits pieces name.toList && ((t.at? (place ++ [name])).map p).getD false)

end FileTree

namespace PathPattern

/-- The pattern that a text stands for. A slash at the end leaves directories only. -/
def ofText? (s : String) : Option PathPattern :=
  ((namesIn s).mapM PathStep.ofText?).map fun steps =>
    { steps, directoriesOnly := s.endsWith "/" }

/-- The paths to which steps lead that start at a path below the root. -/
def selectFrom (t : FileTree) (directoriesOnly : Bool) :
    List PathStep → (path : List String) → Except FileFault (List (List String))
  | [], path => .ok [path]
  | step :: steps, path =>
    let wanted (e : Entry) : Bool := e.isDirectory || (steps.isEmpty && !directoriesOnly)
    match step with
    | .name name => do
      let path := path ++ [name]
      if ← t.test (.below path) wanted then selectFrom t directoriesOnly steps path else pure []
    | .fitting pieces => do
      let names ← t.namesFor path pieces wanted
      pure (← names.mapM fun name => selectFrom t directoriesOnly steps (path ++ [name])).flatten
    | .descent => do
      let (place, _) ← t.find (.below path)
      let below := t.directoriesBelow place
      pure (← below.mapM fun names => selectFrom t directoriesOnly steps (path ++ names)).flatten

/-- The paths to which a pattern leads from a directory and from all directories below it, given
by the names that follow those of the directory. -/
def select (t : FileTree) (p : PathPattern) (base : List String) :
    Except FileFault (List (List String)) :=
  (selectFrom t p.directoriesOnly (.descent :: p.steps) base).map fun paths =>
    paths.map fun path => path.drop base.length

end PathPattern

end Mustache
