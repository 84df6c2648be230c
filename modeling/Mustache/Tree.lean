import Mustache.Token

/-!
# Template trees

A parsed template is a sequence of nodes; a section holds the nodes between its tags. Nodes that
write nothing are kept, so that a tree still accounts for every tag of its source.

## Main definitions

* `Mustache.Section` — what the opening and the closing tag of a section say.
* `Mustache.Flaw` — why a node cannot be rendered.
* `Mustache.Node` — a node of a tree.
* `Mustache.Tree` — a parsed template.
* `Mustache.Node.same`, `Mustache.Tree.same` — whether two nodes or trees are equal.
-/

namespace Mustache

/-- The tags of a section, without the nodes between them. -/
structure Section where
  place : Place
  name : String
  /-- Whether the nodes are for the case that the value is missing or empty. -/
  inverted : Bool
  filters : List String
  /-- Where the opening tag ends in the source. -/
  start : Nat
  /-- Where the closing tag begins in the source. -/
  stop : Nat
  delims : Delimiters
  deriving DecidableEq, Repr, Inhabited

/-- Why a node cannot be rendered. -/
inductive Flaw where
  /-- It lacks something that is needed. -/
  | lacking
  /-- Something that is needed is of the wrong kind. -/
  | wrongKind
  /-- It writes something that is not text. -/
  | notText
  deriving DecidableEq, Repr, Inhabited

/-- A node of a template tree. -/
inductive Node where
  /-- Literal text. -/
  | text (place : Place) (value : String)
  /-- The value of a name, passed through the filters, and escaped on request. -/
  | interpolation (place : Place) (name : String) (escaped : Bool) (filters : List String)
      (delims : Delimiters)
  /-- The nodes between the tags of a section. -/
  | block (head : Section) (body : List Node)
  /-- Another template in place of the tag, its lines indented. -/
  | inclusion (place : Place) (name indent : String)
  /-- A remark. -/
  | comment (place : Place) (value : String)
  /-- A change of delimiters. -/
  | delimiterChange (place : Place) (delims : Delimiters)
  /-- A directive to the parser. -/
  | pragma (place : Place) (name : String)
  /-- A node that cannot be rendered. No source has such nodes, but other trees may. -/
  | flawed (flaw : Flaw)
  deriving Repr, Inhabited

/-- A parsed template. -/
structure Tree where
  body : List Node
  /-- The directives that occur in the template, sorted and without repetition. -/
  pragmas : List String
  deriving Repr, Inhabited

mutual

/-- Whether two nodes are equal. -/
def Node.same : Node → Node → Bool
  | .text place value, .text place' value' => place == place' && value == value'
  | .interpolation place name escaped filters delims,
      .interpolation place' name' escaped' filters' delims' =>
    place == place' && name == name' && escaped == escaped' && filters == filters' &&
      delims == delims'
  | .block head body, .block head' body' => head == head' && sameNodes body body'
  | .inclusion place name indent, .inclusion place' name' indent' =>
    place == place' && name == name' && indent == indent'
  | .comment place value, .comment place' value' => place == place' && value == value'
  | .delimiterChange place delims, .delimiterChange place' delims' =>
    place == place' && delims == delims'
  | .pragma place name, .pragma place' name' => place == place' && name == name'
  | .flawed flaw, .flawed flaw' => flaw == flaw'
  | _, _ => false

/-- Whether nodes are equal, one by one. -/
def sameNodes : List Node → List Node → Bool
  | [], [] => true
  | n :: ns, m :: ms => n.same m && sameNodes ns ms
  | _, _ => false

end

/-- Whether two trees are equal. -/
def Tree.same (t u : Tree) : Bool := sameNodes t.body u.body && t.pragmas == u.pragmas

/-- The slice of a source from one offset up to another. -/
def sliceOf (source : String) (start stop : Nat) : String :=
  String.ofList ((source.toList.take stop).drop start)

/-- The source between the tags of a section. -/
def Section.rawBody (head : Section) (source : String) : String :=
  sliceOf source head.start head.stop

end Mustache
