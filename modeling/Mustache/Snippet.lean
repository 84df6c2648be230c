import Mustache.Text.Lines

/-!
# Source snippets

An error that arises while a template is rendered shows a few lines of the source around the
place, with a caret under the column.

## Main definitions

* `Mustache.Snippet` — numbered lines with the line and the column of the error.
* `Mustache.Snippet.around` — the snippet for a line of a source.
* `Mustache.Snippet.format` — the snippet as text.
-/

namespace Mustache

/-- Lines of a source around an error. -/
structure Snippet where
  /-- The lines with their numbers. -/
  lines : List (Int × String)
  /-- The number of the line with the error. -/
  errorLine : Int
  /-- The column under which the caret stands. -/
  column : Option Int
  deriving DecidableEq, Repr, Inhabited

namespace Snippet

/-- How many lines are shown on either side of an error, by default. -/
def usualContext : Int := 2

/-- The lines `errorLine - context` to `errorLine + context` of the source, as far as it has
them. -/
def around (source : String) (errorLine : Int) (context : Int) (column : Option Int) : Snippet :=
  let all := Text.shownLines source
  let first := (max 0 (errorLine - 1 - context)).toNat
  let last := (min (all.length : Int) (errorLine + context)).toNat
  let kept := (all.take last).drop first
  { lines := (kept.zipIdx first).map fun entry => ((entry.2 : Int) + 1, entry.1)
    errorLine, column }

/-- The gutter of a line that is not numbered. -/
def gutter : String := "   |"

/-- The line that points at a column with a caret. -/
def caret (column : Int) : String := gutter ++ " " ++ Text.spaces column ++ "^"

/-- The column under which a caret is shown, if the line of the error is among the lines. -/
def caretColumn? (s : Snippet) : Option Int :=
  if s.lines.any fun line => line.1 == s.errorLine then s.column else none

/-- One numbered line, marked if it is the line of the error, which the caret follows. -/
def formatLine (s : Snippet) (line : Int × String) : List String :=
  let here := line.1 == s.errorLine
  let shown :=
    (if here then ">" else " ") ++ Text.padLeft 2 (toString line.1) ++ " | " ++ line.2
  match here, s.column with
  | true, some column => [shown, caret column]
  | _, _ => [shown]

/-- The snippet between two empty gutters. -/
def format (s : Snippet) : String :=
  "\n".intercalate ([gutter] ++ s.lines.flatMap s.formatLine ++ [gutter])

end Snippet

end Mustache
