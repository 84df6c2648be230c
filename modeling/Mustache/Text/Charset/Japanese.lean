import Mustache.Text.Charset.Stateless

/-!
# Japanese charsets

The charsets on the grids of JIS X 0208, JIS X 0212 and JIS X 0213. Two families of bytes are in
use for the cells: one with the high bit in both bytes, and one with two rows of the grid for each
first byte.

## Main definitions

* `Mustache.Text.Stateless.eucJp`, `Mustache.Text.Stateless.eucJisx0213`,
  `Mustache.Text.Stateless.eucJis2004` — the charsets with the high bit.
* `Mustache.Text.Stateless.shiftJis`, `Mustache.Text.Stateless.cp932`,
  `Mustache.Text.Stateless.shiftJisx0213`, `Mustache.Text.Stateless.shiftJis2004` — the charsets
  with two rows for a first byte.
-/

namespace Mustache.Text

/-- The byte of a character of half width. -/
def halfWidthByte? (c : Char) : Option Nat :=
  if 0xFF61 ≤ c.toNat && c.toNat ≤ 0xFF9F then some (c.toNat - 0xFF61 + 0xA1) else none

/-- The character of half width that a byte stands for. -/
def halfWidth? (b : Nat) : Option Char :=
  if 0xA1 ≤ b && b ≤ 0xDF then some (Char.ofNat (0xFF61 + (b - 0xA1))) else none

/-- The characters that take the place of two characters of ASCII in JIS X 0201. -/
def romanByte? (c : Char) : Option Nat :=
  if c == '¥' then some 0x5C else if c == '‾' then some 0x7E else none

/-- The character that a byte stands for in the lower half of JIS X 0201. -/
def roman (b : Nat) : Char := if b == 0x5C then '¥' else if b == 0x7E then '‾' else Char.ofNat b

/-- An edition of JIS X 0213. -/
inductive Edition where
  | first
  /-- The edition of 2004. -/
  | revised
  deriving DecidableEq, Repr, Inhabited

namespace Edition

/-- The cell of the second plane whose character the edition of 2004 changed. -/
def revisedCell : Nat := 92 * 94 + 26

/-- The character of that cell before 2004. -/
def formerChar : Char := '\u9B1D'

/-- The character of that cell since 2004, which does not fit into the first edition. -/
def laterChar : Char := '\u9B1C'

/-- Whether a character became part of JIS X 0213 in 2004. -/
def isLate (c : Char) : Bool := c == laterChar || (Grid.jisx0213Revised.cell? c).isSome

/-- The character in a cell of the first plane. -/
def first? (e : Edition) (cell : Nat) : Option Char :=
  Grid.jisx0208.char? cell <|> Grid.jisx0213First.char? cell <|>
    match e with
    | .first => none
    | .revised => Grid.jisx0213Revised.char? cell

/-- The characters in a cell of the first plane, which may be a letter and its mark. -/
def unit? (e : Edition) (cell : Nat) : Option (List Char) :=
  ((e.first? cell).map ([·])) <|>
    (Runs.jisx0213Pairs.find? fun entry => entry.1 == cell).map fun (_, c, d) => [c, d]

/-- The cell of a letter and its mark. -/
def pairCell? (u : List Char) : Option Nat :=
  (Runs.jisx0213Pairs.find? fun (_, c, d) => [c, d] == u).map fun entry => entry.1

/-- The cell of a character in the additions to the first plane. -/
def firstCell? (e : Edition) (c : Char) : Option Nat :=
  Grid.jisx0213First.cell? c <|>
    match e with
    | .first => none
    | .revised => Grid.jisx0213Revised.cell? c

/-- The character in a cell of the second plane. -/
def second? (e : Edition) (cell : Nat) : Option Char :=
  if e == .first && cell == revisedCell then some formerChar
  else Grid.jisx0213Second.char? cell

/-- The cell of a character in the second plane. -/
def secondCell? (e : Edition) (c : Char) : Option Nat :=
  match e with
  | .first =>
    if c == formerChar then some revisedCell
    else if isLate c then none
    else Grid.jisx0213Second.cell? c
  | .revised => Grid.jisx0213Second.cell? c

end Edition

namespace Stateless

/-! ## Cells with the high bit -/

/-- The byte before a character of half width. -/
def halfWidthMark : Nat := 0x8E

/-- The byte before a cell of the second grid. -/
def secondGridMark : Nat := 0x8F

/-- A charset with the high bit in the bytes of cells: what the cells of the two grids stand
for, and how a unit outside ASCII is written. -/
def ofHigh (write : List Char → Option (List Nat)) (first : Nat → Option (List Char))
    (second : Nat → Option Char) : Stateless where
  write
    | [c] => asciiBytes? c <|> ((halfWidthByte? c).map fun b => [halfWidthMark, b]) <|> write [c]
    | u => write u
  read
    | [] => none
    | a :: rest =>
      if a < 128 then some ([Char.ofNat a], rest)
      else if a == halfWidthMark then
        match rest with
        | b :: rest => (halfWidth? b).map fun c => ([c], rest)
        | [] => none
      else if a == secondGridMark then
        match rest with
        | b :: c :: rest => ((Layout.high.cell? b c).bind second).map fun ch => ([ch], rest)
        | _ => none
      else
        match rest with
        | b :: rest => ((Layout.high.cell? a b).bind first).map fun u => (u, rest)
        | [] => none

/-- The bytes of a cell of the second grid. -/
def secondGridBytes (cell : Nat) : List Nat := secondGridMark :: Layout.high.bytes cell

/-- JIS X 0208 and JIS X 0212 with the high bit. -/
def eucJp : Stateless :=
  ofHigh
    (fun
      | [c] => ((Grid.jisx0208.cell? c).map Layout.high.bytes) <|>
          ((romanByte? c).map ([·])) <|> ((Grid.jisx0212.cell? c).map secondGridBytes)
      | _ => none)
    (fun cell => (Grid.jisx0208.char? cell).map ([·]))
    Grid.jisx0212.char?

/-- JIS X 0213 and JIS X 0212 with the high bit. -/
def eucOf (e : Edition) : Stateless :=
  ofHigh
    (fun
      | [c] =>
        if e == .first && Edition.isLate c then none
        else
          ((Grid.jisx0208.cell? c <|> e.firstCell? c).map Layout.high.bytes) <|>
          ((e.secondCell? c <|> Grid.jisx0212.cell? c).map secondGridBytes)
      | u => (Edition.pairCell? u).map Layout.high.bytes)
    e.unit?
    fun cell => e.second? cell <|> Grid.jisx0212.char? cell

/-- The first edition of JIS X 0213 with the high bit. -/
def eucJisx0213 : Stateless := eucOf .first

/-- The edition of 2004 of JIS X 0213 with the high bit. -/
def eucJis2004 : Stateless := eucOf .revised

/-! ## Two rows for a first byte -/

/-- Rows of 188 cells. -/
def paired : Layout := ⟨[(0x81, 0x9F), (0xE0, 0xFC)], [(0x40, 0x7E), (0x80, 0xFC)], 188⟩

/-- A charset with two rows of a grid for each first byte: what a byte stands for by itself, how
a unit is written, and what a cell stands for. -/
def ofPaired (single : Nat → Option Char) (write : List Char → Option (List Nat))
    (unit? : Nat → Option (List Char)) : Stateless where
  write := write
  read
    | [] => none
    | a :: rest =>
      match single a with
      | some c => some ([c], rest)
      | none =>
        match rest with
        | b :: rest => ((paired.cell? a b).bind unit?).map fun u => (u, rest)
        | [] => none

/-- The character that a byte stands for in ASCII or as one of half width. -/
def asciiOrHalfWidth? (b : Nat) : Option Char :=
  if b < 128 then some (Char.ofNat b) else halfWidth? b

/-- JIS X 0208 with two rows for a first byte. -/
def shiftJis : Stateless :=
  ofPaired asciiOrHalfWidth?
    (fun
      | [c] => asciiBytes? c <|> ((romanByte? c <|> halfWidthByte? c).map ([·])) <|>
          ((Grid.jisx0208.cell? c).map paired.bytes)
      | _ => none)
    fun cell => if cell < 94 * 94 then (Grid.jisx0208.char? cell).map ([·]) else none

/-- The characters that bytes without any other meaning stand for in code page 932. -/
def spareBytes : List (Nat × Char) := [
  (0x80, '\u0080'), (0xA0, '\uf8f0'), (0xFD, '\uf8f1'), (0xFE, '\uf8f2'), (0xFF, '\uf8f3')]

/-- The first cell for private use in code page 932. -/
def privateCell : Nat := 94 * 94

/-- The number of cells for private use in code page 932. -/
def privateSize : Nat := 10 * 188

/-- The code point of the first of them. -/
def privateFirst : Nat := 0xE000

/-- Code page 932. -/
def cp932 : Stateless :=
  ofPaired
    (fun b => asciiOrHalfWidth? b <|> spareBytes.lookup b)
    (fun
      | [c] =>
        asciiBytes? c <|> ((halfWidthByte? c).map ([·])) <|>
        ((spareBytes.find? fun entry => entry.2 == c).map fun entry => [entry.1]) <|>
        ((Grid.cp932.cell? c <|> Grid.jisx0208.cell? c).map paired.bytes) <|>
        (if privateFirst ≤ c.toNat && c.toNat < privateFirst + privateSize then
          some (paired.bytes (privateCell + (c.toNat - privateFirst)))
        else none)
      | _ => none)
    fun cell =>
      if privateCell ≤ cell && cell < privateCell + privateSize then
        some [Char.ofNat (privateFirst + (cell - privateCell))]
      else (Grid.cp932.char? cell <|> Grid.jisx0208.char? cell).map ([·])

/-- The rows of the second plane of JIS X 0213 in the order of their bytes, which follow those of
the first plane. -/
def secondPlaneRows : List Nat := [0, 7, 2, 3, 4, 11, 12, 13, 14] ++ List.range' 77 17

/-- The cell of the second plane with a number in the order of the bytes. -/
def secondPlaneCell? (n : Nat) : Option Nat :=
  (secondPlaneRows[n / 94]?).map fun row => row * 94 + n % 94

/-- The number in the order of the bytes of a cell of the second plane. -/
def secondPlaneNumber? (cell : Nat) : Option Nat :=
  (secondPlaneRows.idxOf? (cell / 94)).map fun n => n * 94 + cell % 94

/-- The characters of ASCII that take cells of the grid because their bytes stand for others. -/
def displaced : List (Nat × Char) := [(31, '\\'), (111, '~')]

/-- JIS X 0213 with two rows for a first byte. -/
def pairedOf (e : Edition) : Stateless :=
  ofPaired
    (fun b => if b < 128 then some (roman b) else halfWidth? b)
    (fun
      | [c] =>
        match displaced.find? fun entry => entry.2 == c with
        | some entry => some (paired.bytes entry.1)
        | none =>
          asciiBytes? c <|> ((romanByte? c <|> halfWidthByte? c).map ([·])) <|>
          (((Grid.jisx0208.cell? c <|> e.firstCell? c).filter fun cell =>
            (displaced.lookup cell).isNone).map paired.bytes) <|>
          (((e.secondCell? c).bind secondPlaneNumber?).map fun n => paired.bytes (94 * 94 + n))
      | u => (Edition.pairCell? u).map paired.bytes)
    fun cell =>
      match displaced.lookup cell with
      | some c => some [c]
      | none =>
        if cell < 94 * 94 then e.unit? cell
        else ((secondPlaneCell? (cell - 94 * 94)).bind e.second?).map ([·])

/-- The first edition of JIS X 0213 with two rows for a first byte. -/
def shiftJisx0213 : Stateless := pairedOf .first

/-- The edition of 2004 of JIS X 0213 with two rows for a first byte. -/
def shiftJis2004 : Stateless := pairedOf .revised

end Stateless

end Mustache.Text
