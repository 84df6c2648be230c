import Mustache.Signature
import Mustache.Text.Blank
import Mustache.Text.Search

/-!
# Written signatures

A signature is written as its parameters between parentheses, with commas between them. An equals
sign gives a parameter a default. A slash stands behind the parameters that are bound by position
only, an asterisk in front of those that are bound by name only. A name behind one asterisk takes
all further positions, and one behind two asterisks all further names.

## Main definitions

* `Mustache.Signature.ofText` — the signature that a text stands for.
-/

namespace Mustache.Signature

/-- The parameter that a word without asterisks stands for. -/
def parameterOf (kind : ParameterKind) (word : List Char) : Parameter :=
  { name := String.ofList (word.takeWhile (· != '=')), kind, optional := word.contains '=' }

/-- The parameters that words stand for. The kind is that of the next plain word. -/
def parametersFrom (kind : ParameterKind) : List (List Char) → List Parameter
  | [] => []
  | [] :: ws => parametersFrom kind ws
  | ['*'] :: ws => parametersFrom .keywordOnly ws
  | ['/'] :: ws => parametersFrom .positional ws
  | ('*' :: '*' :: name) :: ws =>
    { name := String.ofList name, kind := .keywordRest, optional := false } ::
      parametersFrom kind ws
  | ('*' :: name) :: ws =>
    { name := String.ofList name, kind := .rest, optional := false } ::
      parametersFrom .keywordOnly ws
  | w :: ws => parameterOf kind w :: parametersFrom kind ws

/-- The signature that a text stands for; a text without parentheses stands for one that is
hidden. -/
def ofText (s : String) : Signature :=
  match s.toList with
  | '(' :: inner =>
    let words := (Text.fieldsOf ',' (String.ofList inner.dropLast)).map fun w => Text.trim w.toList
    let kind : ParameterKind := if words.contains ['/'] then .positionalOnly else .positional
    parameters (parametersFrom kind words)
  | _ => hidden

end Mustache.Signature
