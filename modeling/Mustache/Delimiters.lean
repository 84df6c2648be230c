import Mustache.Text.Blank

/-!
# Tag delimiters

A tag stands between an opening and a closing delimiter. A template starts with the usual pair
and may change to another; the pair in effect travels with every tag.

## Main definitions

* `Mustache.Delimiters` — a pair of delimiters.
* `Mustache.Delimiters.ofWords?` — the pair written in a delimiter change.
* `Mustache.Delimiters.changeTag?` — the tag that changes from the usual pair to a given one.
-/

namespace Mustache

/-- An opening and a closing delimiter. -/
structure Delimiters where
  /-- What a tag begins with. -/
  opening : String
  /-- What a tag ends with. -/
  closing : String
  deriving DecidableEq, Repr, Inhabited

namespace Delimiters

/-- The pair that a template starts with. -/
def usual : Delimiters := ⟨"\x7b\x7b", "\x7d\x7d"⟩

/-- The pair that the content of a delimiter change stands for: its two words, neither of which
may hold an equals sign. -/
def ofWords? (content : List Char) : Option Delimiters :=
  match Text.words content with
  | [first, second] =>
    if first.contains '=' || second.contains '=' then none
    else some ⟨String.ofList first, String.ofList second⟩
  | _ => none

/-- The tag that changes from the usual pair to this one; none is needed for the usual pair. -/
def changeTag? (d : Delimiters) : Option String :=
  if d = usual then none
  else some (usual.opening ++ "=" ++ d.opening ++ " " ++ d.closing ++ "=" ++ usual.closing)

end Delimiters

end Mustache
