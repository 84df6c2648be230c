import Mustache.Token.Scan
import Mustache.Tree

/-!
# Building a tree from tokens

The builder reads the tokens in order. An opening tag sets the nodes read so far aside, and the
matching closing tag wraps the nodes in between into a section. Once the pragma `FILTERS` has
been met, names are split at vertical bars into a name and filters; a closing tag is split as its
opening tag was.

## Main definitions

* `Mustache.splitFilters` — a name with its filters.
* `Mustache.Builder` — what has been read so far.
* `Mustache.Builder.step` — reads one token.
* `Mustache.buildTree` — the tree of a list of tokens.
-/

namespace Mustache

/-- The pragma that makes filters available. -/
def filtersPragma : String := "FILTERS"

/-- A name with its filters, as they stand in a tag; `none` if one of them is empty. Without
`active` the whole content is the name. -/
def splitFilters (active : Bool) (content : String) : Option (String × List String) :=
  if !active || !content.contains '|' then some (content, [])
  else
    match (Text.fields '|' content.toList).map Text.trim with
    | [] => none
    | name :: filters =>
      if name.isEmpty || filters.any List.isEmpty then none
      else some (String.ofList name, filters.map String.ofList)

/-- A section whose closing tag has not been read. -/
structure OpenSection where
  opener : Token
  name : String
  filters : List String
  /-- Whether filters were available at the opening tag. -/
  filtersActive : Bool
  /-- The nodes before the section, from last to first. -/
  before : List Node

/-- What has been read so far: the nodes of the innermost open section from last to first, the
open sections from the innermost to the outermost, and the pragmas. -/
structure Builder where
  body : List Node
  sections : List OpenSection
  pragmas : List String

/-- Why there is no tree. -/
inductive BuildFailure where
  /-- A tag does not fit. -/
  | refused (cause : Malformation) (token : Token)
  /-- A delimiter change does not have two words; the scanner produces no such token. -/
  | notTwoWords (token : Token)
  deriving DecidableEq, Repr

namespace Builder

/-- Nothing read. -/
def empty : Builder := ⟨[], [], []⟩

/-- Whether the pragma for filters has been met. -/
def filtersActive (b : Builder) : Bool := b.pragmas.contains filtersPragma

/-- One more node. -/
def push (b : Builder) (n : Node) : Builder := { b with body := n :: b.body }

/-- The name and the filters of a tag. -/
def split (active : Bool) (t : Token) : Except BuildFailure (String × List String) :=
  match splitFilters active t.value with
  | some parts => .ok parts
  | none => .error (.refused (.emptyFilter t.value) t)

/-- Reads an opening tag. -/
def openSection (b : Builder) (t : Token) : Except BuildFailure Builder :=
  match split b.filtersActive t with
  | .error e => .error e
  | .ok (name, filters) =>
    .ok { b with body := [], sections := ⟨t, name, filters, b.filtersActive, b.body⟩ :: b.sections }

/-- Reads a closing tag. -/
def closeSection (b : Builder) (t : Token) : Except BuildFailure Builder :=
  match b.sections with
  | [] => .error (.refused (.unexpectedClose t.value) t)
  | s :: outer =>
    match split s.filtersActive t with
    | .error e => .error e
    | .ok (name, _) =>
      if name = s.name then
        let head : Section :=
          { place := s.opener.place, name := s.name, inverted := s.opener.kind == .invertedStart,
            filters := s.filters, start := s.opener.stop, stop := t.start,
            delims := s.opener.delims }
        .ok { b with body := .block head b.body.reverse :: s.before, sections := outer }
      else .error (.refused (.mismatchedClose s.name name) t)

/-- Reads an interpolation. -/
def interpolate (b : Builder) (t : Token) : Except BuildFailure Builder :=
  match split b.filtersActive t with
  | .error e => .error e
  | .ok (name, filters) =>
    .ok (b.push (.interpolation t.place name (t.kind == .interpolation) filters t.delims))

/-- Reads a delimiter change. -/
def changeDelimiters (b : Builder) (t : Token) : Except BuildFailure Builder :=
  match Text.words t.value.toList with
  | [first, second] =>
    .ok (b.push (.delimiterChange t.place ⟨String.ofList first, String.ofList second⟩))
  | _ => .error (.notTwoWords t)

/-- Reads one token. -/
def step (b : Builder) (t : Token) : Except BuildFailure Builder :=
  match t.kind with
  | .text => .ok (b.push (.text t.place t.value))
  | .interpolation | .rawInterpolation => b.interpolate t
  | .sectionStart | .invertedStart => b.openSection t
  | .sectionEnd => b.closeSection t
  | .inclusion => .ok (b.push (.inclusion t.place t.value t.indent))
  | .comment => .ok (b.push (.comment t.place t.value))
  | .delimiterChange => b.changeDelimiters t
  | .pragma => .ok { b.push (.pragma t.place t.value) with pragmas := t.value :: b.pragmas }

/-- Reads tokens in order. -/
def steps (b : Builder) : List Token → Except BuildFailure Builder
  | [] => .ok b
  | t :: ts =>
    match b.step t with
    | .error e => .error e
    | .ok b' => b'.steps ts

/-- The tree, once all tokens are read and no section is open. -/
def finish (b : Builder) : Except BuildFailure Tree :=
  match b.sections with
  | s :: _ => .error (.refused (.unclosedSection s.opener.value) s.opener)
  | [] =>
    .ok { body := b.body.reverse
          pragmas := (b.pragmas.mergeSort fun s t => decide (s ≤ t)).eraseReps }

end Builder

/-- The tree of a list of tokens. -/
def buildTree (tokens : List Token) : Except BuildFailure Tree :=
  match Builder.empty.steps tokens with
  | .error e => .error e
  | .ok b => b.finish

/-- The error for a token that does not fit, in a named source. -/
def malformedAt (cause : Malformation) (t : Token) (name : Value)
    (source : Option String) : Malformed :=
  { cause, line := some (t.place.line : Int), column := some (t.place.column : Int), name, source }

/-- Why a source has no tree. -/
inductive ParseFailure where
  | malformed (e : Malformed)
  | notTwoWords (token : Token)

/-- The tree of a list of tokens of a named template. Without the source an error shows no
excerpt. -/
def parseTokens (tokens : List Token) (name : Value) (source : Option String) :
    Except ParseFailure Tree :=
  match buildTree tokens with
  | .ok tree => .ok tree
  | .error (.refused cause t) => .error (.malformed (malformedAt cause t name source))
  | .error (.notTwoWords t) => .error (.notTwoWords t)

/-- The tree of a source that starts under the given delimiters. -/
def parse (source : String) (name : Value) (delims : Delimiters) :
    Except ParseFailure Tree :=
  match tokenize source name delims with
  | .error e => .error (.malformed e)
  | .ok tokens => parseTokens tokens name (some source)

end Mustache
