import Mustache.Error.Code
import Mustache.Snippet
import Mustache.Value.Printed

/-!
# Malformed templates

A template is refused when its tags cannot be read or its sections do not match. The error names
the cause and the place, and shows the line of the source.

## Main definitions

* `Mustache.Malformation` — the causes.
* `Mustache.Malformed` — a cause with its place in a named source.
* `Mustache.Malformed.message` — the text of the error.
-/

namespace Mustache

/-- Why a template is refused. -/
inductive Malformation where
  /-- A tag is never closed. -/
  | unclosedTag (closer : String)
  /-- A tag has no content. -/
  | emptyTag
  /-- A delimiter change does not hold exactly two delimiters. -/
  | invalidDelimiters (content : String)
  /-- A closing tag stands where no section is open. -/
  | unexpectedClose (name : String)
  /-- A closing tag names another section than the one that is open. -/
  | mismatchedClose (expected found : String)
  /-- A section is open at the end. -/
  | unclosedSection (name : String)
  /-- A tag with filters lacks its name or one of the filters. -/
  | emptyFilter (content : String)
  /-- A cause that is stated by the caller. -/
  | other (text : String) (code : ErrorCode)
  deriving DecidableEq, Repr, Inhabited

namespace Malformation

/-- The cause in words. -/
def text : Malformation → String
  | unclosedTag closer => "Unclosed tag: expected " ++ Text.quoted closer
  | emptyTag => "Empty tag"
  | invalidDelimiters content =>
    "Invalid delimiter change " ++ Text.quoted content ++
      ": expected two delimiters like \x7b\x7b=<% %>=\x7d\x7d"
  | unexpectedClose name => "Unexpected closing tag '" ++ name ++ "'"
  | mismatchedClose expected found =>
    "Mismatched closing tag: expected '\x7b\x7b/" ++ expected ++ "\x7d\x7d', got '\x7b\x7b/" ++
      found ++ "\x7d\x7d'"
  | unclosedSection name => "Unclosed section '" ++ name ++ "'"
  | emptyFilter content => "Empty name or filter in '" ++ content ++ "'"
  | other text _ => text

/-- The code of the cause. -/
def code : Malformation → ErrorCode
  | unclosedTag _ => .unclosedTag
  | emptyTag => .emptyTag
  | invalidDelimiters _ => .invalidDelimiters
  | unexpectedClose _ => .unexpectedClose
  | mismatchedClose _ _ => .mismatchedClose
  | unclosedSection _ => .unclosedSection
  | emptyFilter _ => .emptyTag
  | other _ code => code

end Malformation

/-- A cause with its place. A line of zero stands for an unknown place. -/
structure Malformed where
  cause : Malformation
  line : Option Int
  column : Option Int
  /-- The name of the template: text as a rule, but a loader may give it any value. -/
  name : Value
  /-- The source, if it is at hand. -/
  source : Option String
  deriving Inhabited

/-- The name under which an error mentions a template. -/
def mentionedAs (name : Value) : Value := if name.isVacant then .text "<template>" else name

/-- A name with more text behind it. A list takes the characters as further items; nothing can be
put behind other values. -/
def nameWith? (name : Value) (more : String) : Option Value :=
  match name with
  | .text s => some (.text (s ++ more))
  | .list vs => some (.list (vs ++ more.toList.map fun c => .text (String.singleton c)))
  | _ => none

/-- A number in a place, behind a colon. -/
def placeNumber (n : Int) : String := ":" ++ toString n

namespace Malformed

/-- The known line of the error. -/
def knownLine? (e : Malformed) : Option Int := e.line.filter (· != 0)

/-- The line and the column, as far as they are known. -/
def place (e : Malformed) : String :=
  (e.knownLine?.map fun line =>
    placeNumber line ++ (e.column.map placeNumber).getD "").getD ""

/-- The template with the line and the column; `none` if they cannot be put behind its name. -/
def location? (e : Malformed) : Option Value :=
  if e.knownLine?.isNone then some (mentionedAs e.name)
  else nameWith? (mentionedAs e.name) e.place

/-- The name as it is left behind: a list has been extended by the place. -/
def nameLeft (e : Malformed) : Value :=
  match e.name, e.location? with
  | .list (_ :: _), some location => location
  | name, _ => name

/-- The line of the source at the error. -/
def shownLine? (e : Malformed) : Option (Int × String) := do
  let source ← e.source
  let line ← e.knownLine?
  if line < 0 then none
  let text ← (Text.shownLines source)[line.toNat - 1]?
  pure (line, text)

/-- The column under which a caret is shown, if the line of the source is. -/
def caretColumn? (e : Malformed) : Option Int := if e.shownLine?.isSome then e.column else none

/-- The line of the source under a gutter, and a caret under its column. -/
def excerpt (e : Malformed) : String :=
  match e.shownLine? with
  | none => ""
  | some (line, text) =>
    "\n" ++ Snippet.gutter ++ "\n" ++ Text.padLeft 3 (toString line) ++ " | " ++ text ++
      (e.column.map fun column => "\n" ++ Snippet.caret column).getD ""

/-- Cause, place and excerpt. -/
def message (e : Malformed) : String :=
  "Syntax Error: " ++ e.cause.text ++ "\n  --> " ++ (e.location?.getD .null).plain ++ e.excerpt

end Malformed

end Mustache
