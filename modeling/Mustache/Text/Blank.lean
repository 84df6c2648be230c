/-!
# Blank characters

The characters that separate words: the white space of Unicode together with the four
information separators. Tag contents are trimmed of them on both ends, and a delimiter change
is split at them.

## Main definitions

* `Mustache.Text.isBlank` — membership in the set.
* `Mustache.Text.trim` — a text without its blank ends.
* `Mustache.Text.words` — the maximal stretches without a blank.
-/

namespace Mustache.Text

/-- White space of Unicode, and the separators `U+001C` to `U+001F`. -/
def isBlank (c : Char) : Bool :=
  let n := c.toNat
  (9 ≤ n && n ≤ 13) || (0x1C ≤ n && n ≤ 0x20) || n == 0x85 || n == 0xA0 || n == 0x1680 ||
    (0x2000 ≤ n && n ≤ 0x200A) || n == 0x2028 || n == 0x2029 || n == 0x202F || n == 0x205F ||
    n == 0x3000

/-- The text from its first to its last character that is not blank. -/
def trim (cs : List Char) : List Char :=
  ((cs.dropWhile isBlank).reverse.dropWhile isBlank).reverse

/-- The words of a text, given the characters of the word that is being read. -/
def wordsFrom (current : List Char) : List Char → List (List Char)
  | [] => if current.isEmpty then [] else [current.reverse]
  | c :: cs =>
    if isBlank c then
      if current.isEmpty then wordsFrom [] cs else current.reverse :: wordsFrom [] cs
    else wordsFrom (c :: current) cs

/-- The maximal stretches of characters that are not blank, in order. -/
def words (cs : List Char) : List (List Char) := wordsFrom [] cs

/-- Tabs and spaces, the blanks that may stand beside a tag that has its line to itself. -/
def isMargin (c : Char) : Bool := c == ' ' || c == '\t'

end Mustache.Text
