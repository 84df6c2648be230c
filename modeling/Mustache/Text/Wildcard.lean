import Mustache.Text.Search

/-!
# Wildcard patterns

File names are matched against patterns: an asterisk stands for any stretch of characters, a
question mark for one character, and brackets for one character out of a set or, after an
exclamation mark, out of its complement. A bracket that is not closed stands for itself.

## Main definitions

* `Mustache.Text.Wildcard` — the pieces of a pattern.
* `Mustache.Text.wildcards` — a pattern in pieces.
* `Mustache.Text.fits` — whether a name matches.
-/

namespace Mustache.Text

/-- A piece of a pattern. -/
inductive Wildcard where
  /-- Any stretch of characters. -/
  | stretch
  /-- Any one character. -/
  | one
  /-- A character in one of the closed ranges, or in none of them. -/
  | oneOf (negated : Bool) (ranges : List (Char × Char))
  /-- A character that stands for itself. -/
  | char (c : Char)
  deriving DecidableEq, Repr, Inhabited

/-- The closed ranges that the text between brackets lists. -/
def rangesOf : List Char → List (Char × Char)
  | a :: '-' :: b :: cs => (a, b) :: rangesOf cs
  | a :: cs => (a, a) :: rangesOf cs
  | [] => []

/-- The text between brackets and the text behind them, given the text after the opening
bracket. A closing bracket that comes first belongs to the set. -/
def bracketed? : List Char → Option (List Char × List Char)
  | '!' :: ']' :: cs => (cut? [']'] cs).map fun p => ('!' :: ']' :: p.1, p.2)
  | ']' :: cs => (cut? [']'] cs).map fun p => (']' :: p.1, p.2)
  | cs => cut? [']'] cs

/-- The piece for a set between brackets. Ranges without characters are dropped first. An
exclamation mark in front of the rest negates it; if it was the start of a range, its hyphen and
its end stand for themselves. -/
def setPiece (set : List Char) : Wildcard :=
  match set with
  | '!' :: cs => .oneOf true (rangesOf cs)
  | cs =>
    match (rangesOf cs).filter fun r => r.1 ≤ r.2 with
    | ('!', '!') :: ranges => .oneOf true ranges
    | ('!', last) :: ranges => .oneOf true (('-', '-') :: (last, last) :: ranges)
    | ranges => .oneOf false ranges

/-- The pieces of a pattern; the fuel is its length. -/
def wildcardsFrom : (fuel : Nat) → List Char → List Wildcard
  | 0, _ => []
  | _, [] => []
  | fuel + 1, '*' :: cs => .stretch :: wildcardsFrom fuel cs
  | fuel + 1, '?' :: cs => .one :: wildcardsFrom fuel cs
  | fuel + 1, '[' :: cs =>
    match bracketed? cs with
    | some (set, rest) => setPiece set :: wildcardsFrom fuel rest
    | none => .char '[' :: wildcardsFrom fuel cs
  | fuel + 1, c :: cs => .char c :: wildcardsFrom fuel cs

/-- A pattern in pieces. -/
def wildcards (pattern : List Char) : List Wildcard := wildcardsFrom pattern.length pattern

/-- Whether a piece other than a stretch matches the character. -/
def Wildcard.covers : Wildcard → Char → Bool
  | stretch, _ => false
  | one, _ => true
  | oneOf negated ranges, c => (ranges.any fun r => r.1 ≤ c && c ≤ r.2) != negated
  | char d, c => c == d

/-- Whether the test holds of some end of the text. -/
def someSuffix (test : List Char → Bool) : List Char → Bool
  | [] => test []
  | c :: cs => test (c :: cs) || someSuffix test cs

/-- Whether the pieces match the whole name. -/
def fits : List Wildcard → List Char → Bool
  | [], cs => cs.isEmpty
  | .stretch :: ps, cs => someSuffix (fits ps) cs
  | _ :: _, [] => false
  | p :: ps, c :: cs => p.covers c && fits ps cs

end Mustache.Text
