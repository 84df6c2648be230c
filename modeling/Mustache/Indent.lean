/-!
# Indentation

The lines of an included template are indented like the tag that includes it. Lines end at the
newline character alone, and the empty stretch behind the last newline is no line.

## Main definitions

* `Mustache.indentLines` — a text with every line indented.
-/

namespace Mustache

/-- Every line with the indent in front. The flag says whether the text starts a line. -/
def indentFrom (indent : List Char) : (atStart : Bool) → List Char → List Char
  | _, [] => []
  | true, c :: cs => indent ++ c :: indentFrom indent (c == '\n') cs
  | false, c :: cs => c :: indentFrom indent (c == '\n') cs

/-- The text with the indent in front of every line. -/
def indentLines (text indent : String) : String :=
  String.ofList (indentFrom indent.toList true text.toList)

end Mustache
