import Mustache.Error.Malformed

/-!
# Errors while rendering

Rendering stops at a filter that does not exist and at a value that has no text. The error says
where, shows the tag and the values involved, and makes a suggestion.

## Main definitions

* `Mustache.RenderProblem` — the causes.
* `Mustache.Unrenderable` — a cause with what is known of its circumstances.
* `Mustache.Unrenderable.message` — the text of the error.
-/

namespace Mustache

/-- Why rendering stops. -/
inductive RenderProblem where
  /-- A filter is not found, or cannot be called. -/
  | unknownFilter (name : String)
  /-- A table or a sequence stands where text is wanted. -/
  | unprintable (typeName : String)
  /-- A cause that is stated by the caller. -/
  | other (text : String) (code : ErrorCode)
  deriving DecidableEq, Repr, Inhabited

namespace RenderProblem

/-- The cause in words. -/
def text : RenderProblem → String
  | unknownFilter name => "Unknown filter '" ++ name ++ "'"
  | unprintable typeName => "Cannot interpolate a " ++ typeName
  | other text _ => text

/-- The code of the cause. -/
def code : RenderProblem → ErrorCode
  | unknownFilter _ => .unknownFilter
  | unprintable _ => .unprintableValue
  | other _ code => code

end RenderProblem

/-- A cause with its circumstances, as far as they are known. -/
structure Unrenderable where
  problem : RenderProblem
  /-- The tag that cannot be rendered. -/
  expression : Option String := none
  /-- Values involved, with names for them. -/
  values : List (String × Value) := []
  /-- The name of the template, null if it is not known. -/
  templateName : Value := .null
  line : Option Int := none
  suggestion : Option String := none
  snippet : Option Snippet := none
  deriving Inhabited

/-- A text that is there and not empty. -/
def nonempty? (s : Option String) : Option String := s.filter (· != "")

/-- The longest quoted form that is shown in full. -/
def quotedLimit : Nat := 80

/-- A quoted form, cut to the limit. -/
def shortened (s : String) : String :=
  if s.length > quotedLimit then String.ofList (s.toList.take (quotedLimit - 3)) ++ "..." else s

namespace Unrenderable

/-- The known line of the error. -/
def knownLine? (e : Unrenderable) : Option Int := e.line.filter (· != 0)

/-- Whether the template or the line is known. -/
def isLocated (e : Unrenderable) : Bool := !e.templateName.isVacant || e.knownLine?.isSome

/-- The template with the line; `none` if it cannot be put behind the name. -/
def location? (e : Unrenderable) : Option Value :=
  match e.knownLine? with
  | none => some (mentionedAs e.templateName)
  | some line => nameWith? (mentionedAs e.templateName) (placeNumber line)

/-- A value with its name and its kind. -/
def valueLine (entry : String × Value) : String :=
  "    " ++ entry.1 ++ " = " ++ shortened entry.2.quoted ++ " (" ++ entry.2.typeName ++ ")"

/-- The lines of the error. -/
def parts (e : Unrenderable) : List String :=
  ["Runtime Error: " ++ e.problem.text] ++
    (if e.isLocated then ["  Location: " ++ (e.location?.getD .null).plain] else []) ++
    (e.snippet.map Snippet.format).toList ++
    ((nonempty? e.expression).map ("  Expression: " ++ ·)).toList ++
    (if e.values.isEmpty then [] else "  Values:" :: e.values.map valueLine) ++
    ((nonempty? e.suggestion).map ("\n  Suggestion: " ++ ·)).toList

/-- Cause, place, excerpt, tag, values and suggestion. -/
def message (e : Unrenderable) : String := "\n".intercalate e.parts

end Unrenderable

end Mustache
