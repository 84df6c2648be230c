/-!
# Lines of a text

Two notions of a line are in use. Templates count lines by the newline character alone. A line
that is shown to a reader ends at any of the line breaks of Unicode, and a carriage return with
its newline is one break.

## Main definitions

* `Mustache.Text.isBreak` — the line breaks.
* `Mustache.Text.shownLines` — the lines of a text as they are shown.
* `Mustache.Text.lastLine` — what follows the last newline.
* `Mustache.Text.padLeft` — a text filled with spaces from the left.
-/

namespace Mustache.Text

/-- The characters that end a shown line. -/
def isBreak (c : Char) : Bool :=
  let n := c.toNat
  (10 ≤ n && n ≤ 13) || (0x1C ≤ n && n ≤ 0x1E) || n == 0x85 || n == 0x2028 || n == 0x2029

/-- The shown lines of a text, given the line that is being read and whether there is one. -/
def shownLinesFrom (current : List Char) : List Char → List (List Char)
  | [] => if current.isEmpty then [] else [current.reverse]
  | '\r' :: '\n' :: cs => current.reverse :: shownLinesFrom [] cs
  | c :: cs =>
    if isBreak c then current.reverse :: shownLinesFrom [] cs else shownLinesFrom (c :: current) cs

/-- The lines of a text without their breaks; nothing follows a break at the end of the text. -/
def shownLines (s : String) : List String := (shownLinesFrom [] s.toList).map String.ofList

/-- What follows the last newline. -/
def lastLine (cs : List Char) : List Char := (cs.reverse.takeWhile (· != '\n')).reverse

/-- As many spaces as `n`, none if it is negative. -/
def spaces (n : Int) : String := String.ofList (List.replicate n.toNat ' ')

/-- The text with spaces in front of it up to the given width. -/
def padLeft (width : Nat) (s : String) : String := spaces (width - s.length : Int) ++ s

end Mustache.Text
