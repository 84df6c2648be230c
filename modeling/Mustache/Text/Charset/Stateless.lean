import Mustache.Text.Charset.Grid

/-!
# Charsets that write a character in the same way everywhere

Most charsets with several bytes for a character need no memory: the bytes of a character do not
depend on what stands before it. Some write a letter and the mark that follows it as one.

Bytes are numbers below 256 here, because they are computed from cells and back.

## Main definitions

* `Mustache.Text.units` — the parts of a text that are written as one.
* `Mustache.Text.Stateless` — a charset that needs no memory.
* `Mustache.Text.Stateless.encode`, `Mustache.Text.Stateless.decode` — writing and reading.
-/

namespace Mustache.Text

/-- A character as a unit of its own if it fits. Otherwise its substitute, in units. -/
def unitsOfChar (fits : List Char → Bool) (substitute : Char → List Char) (c : Char) :
    List (List Char) :=
  if fits [c] then [[c]] else (substitute c).map ([·])

/-- The text in the units that are written as one: two characters where that fits, else one. A
character that does not fit is substituted. -/
def units (fits : List Char → Bool) (substitute : Char → List Char) :
    List Char → List (List Char)
  | c :: d :: cs =>
    if fits [c, d] then [c, d] :: units fits substitute cs
    else unitsOfChar fits substitute c ++ units fits substitute (d :: cs)
  | [c] => unitsOfChar fits substitute c
  | [] => []

/-- A charset that writes a unit in the same way wherever it stands. -/
structure Stateless where
  /-- The bytes of a unit that fits. -/
  write : List Char → Option (List Nat)
  /-- The characters in front of some bytes, and the bytes that are left. -/
  read : List Nat → Option (List Char × List Nat)

namespace Stateless

/-- The bytes of a text, with substitutes for the characters that do not fit. -/
def encode (s : Stateless) (substitute : Char → List Char) (text : List Char) : List Nat :=
  (units (fun u => (s.write u).isSome) substitute text).flatMap fun u => (s.write u).getD []

/-- Reads bytes from their front for as long as `fuel` lasts. -/
def decodeFrom (s : Stateless) : (fuel : Nat) → List Nat → Option (List Char)
  | _, [] => some []
  | 0, _ => none
  | fuel + 1, bs =>
    (s.read bs).bind fun (cs, rest) => (s.decodeFrom fuel rest).map (cs ++ ·)

/-- The text that bytes stand for. -/
def decode (s : Stateless) (bs : List Nat) : Option (List Char) := s.decodeFrom bs.length bs

end Stateless

/-! ## Bytes and cells -/

/-- The byte of a character of ASCII. -/
def asciiBytes? (c : Char) : Option (List Nat) := if c.toNat < 128 then some [c.toNat] else none

/-- The number of a byte in a range, counted from its first. -/
def offsetIn? (first last b : Nat) : Option Nat :=
  if first ≤ b && b ≤ last then some (b - first) else none

/-- The place of a byte in ranges of bytes that follow one another. -/
def placeIn? : List (Nat × Nat) → Nat → Option Nat
  | [], _ => none
  | (first, last) :: ranges, b =>
    if first ≤ b && b ≤ last then some (b - first)
    else (placeIn? ranges b).map (· + (last + 1 - first))

/-- The byte at a place in ranges of bytes that follow one another. -/
def byteAt : List (Nat × Nat) → Nat → Nat
  | [], _ => 0
  | (first, last) :: ranges, place =>
    if place < last + 1 - first then first + place else byteAt ranges (place - (last + 1 - first))

/-- How cells are written in two bytes: the ranges of the first byte and of the second, and the
number of second bytes. -/
structure Layout where
  leads : List (Nat × Nat)
  trails : List (Nat × Nat)
  width : Nat

namespace Layout

/-- The cell that two bytes stand for. -/
def cell? (l : Layout) (a b : Nat) : Option Nat :=
  (placeIn? l.leads a).bind fun row => (placeIn? l.trails b).map (row * l.width + ·)

/-- The bytes of a cell. -/
def bytes (l : Layout) (cell : Nat) : List Nat :=
  [byteAt l.leads (cell / l.width), byteAt l.trails (cell % l.width)]

/-- Rows and cells of 94 bytes each without the high bit. -/
def low : Layout := ⟨[(0x21, 0x7E)], [(0x21, 0x7E)], 94⟩

/-- Rows and cells of 94 bytes each with the high bit. -/
def high : Layout := ⟨[(0xA1, 0xFE)], [(0xA1, 0xFE)], 94⟩

end Layout

end Mustache.Text
