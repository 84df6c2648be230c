import Std.Data.HashMap
import Mustache.Text.Charset.Grid.Big5
import Mustache.Text.Charset.Grid.Cp932
import Mustache.Text.Charset.Grid.Gb2312
import Mustache.Text.Charset.Grid.Gbk
import Mustache.Text.Charset.Grid.Hkscs
import Mustache.Text.Charset.Grid.Jisx0208
import Mustache.Text.Charset.Grid.Jisx0212
import Mustache.Text.Charset.Grid.Jisx0213
import Mustache.Text.Charset.Grid.Ksx1001

/-!
# Grids of characters

A large set of characters is laid out on a grid whose cells are numbered row by row. Charsets
differ in the bytes that they give to a cell, and share the grids.

## Main definitions

* `Mustache.Text.Grid` — a set of characters with a cell for each.
* `Mustache.Text.Grid.char?`, `Mustache.Text.Grid.cell?` — the two ways to look one up.

## Implementation notes

Both ways are tables that are made when they are first needed, because a text seldom needs more
than one grid.
-/

namespace Mustache.Text

/-- Characters in numbered cells. -/
structure Grid where
  /-- The characters by cell. -/
  chars : Thunk (Std.HashMap Nat Char)
  /-- The cells by the code point of their character. -/
  cells : Thunk (Std.HashMap Nat Nat)

namespace Grid

/-- The character in a cell. -/
def char? (g : Grid) (cell : Nat) : Option Char := g.chars.get[cell]?

/-- The cell of a character. -/
def cell? (g : Grid) (c : Char) : Option Nat := g.cells.get[c.toNat]?

/-- The characters of a run, each with its cell. -/
def cellsOfRun (first : Nat) (text : String) : List (Nat × Char) :=
  (text.toList.zipIdx first).filterMap fun (c, cell) =>
    if c == '\uFFFD' then none else some (cell, c)

/-- The table of characters by cell. -/
def charTable (cells : List (Nat × Char)) : Std.HashMap Nat Char := Std.HashMap.ofList cells

/-- The table of cells by code point. Of several cells with one character the first counts. -/
def cellTable (cells : List (Nat × Char)) : Std.HashMap Nat Nat :=
  cells.foldl (fun table entry => table.insertIfNew entry.2.toNat entry.1) ∅

/-- The grid with the given runs. -/
def ofRuns (runs : List (Nat × String)) : Grid where
  chars := Thunk.mk fun _ => charTable (runs.flatMap fun (first, text) => cellsOfRun first text)
  cells := Thunk.mk fun _ => cellTable (runs.flatMap fun (first, text) => cellsOfRun first text)

/-- The grid whose cells hold the given characters one after the other. -/
def ofChars (text : Thunk (List Char)) : Grid where
  chars := Thunk.mk fun _ => charTable (text.get.zipIdx.map Prod.swap)
  cells := Thunk.mk fun _ => cellTable (text.get.zipIdx.map Prod.swap)

/-- The characters with code points from `first` to `last` that a grid does not have. -/
def missing (g : Grid) (first last : Nat) : List Char :=
  ((List.range' first (last + 1 - first)).map Char.ofNat).filter fun c => (g.cell? c).isNone

/-- GB 2312. -/
def gb2312 : Grid := ofRuns Runs.gb2312

/-- The ideographs that GBK adds to those of GB 2312. -/
def gbkIdeographs : Grid :=
  ofChars (Thunk.mk fun _ => gb2312.missing 0x4E00 0x9FA5 ++ Runs.gbkCompatibility.toList)

/-- The symbols that GBK adds to those of GB 2312. -/
def gbkSymbols : Grid := ofRuns Runs.gbkSymbols

/-- The cells that GB 18030 adds to those of GBK. -/
def gb18030 : Grid := ofRuns Runs.gb18030

/-- KS X 1001. -/
def ksx1001 : Grid := ofRuns Runs.ksx1001

/-- The syllables that KS X 1001 does not have. -/
def rareSyllables : Grid := ofChars (Thunk.mk fun _ => ksx1001.missing 0xAC00 0xD7A3)

/-- JIS X 0208. -/
def jisx0208 : Grid := ofRuns Runs.jisx0208

/-- JIS X 0212. -/
def jisx0212 : Grid := ofRuns Runs.jisx0212

/-- What the first plane of JIS X 0213 adds to JIS X 0208. -/
def jisx0213First : Grid := ofRuns Runs.jisx0213First

/-- What the edition of 2004 adds to the first plane of JIS X 0213. -/
def jisx0213Revised : Grid := ofRuns Runs.jisx0213Revised

/-- The second plane of JIS X 0213. -/
def jisx0213Second : Grid := ofRuns Runs.jisx0213Second

/-- What code page 932 changes in JIS X 0208 or adds to it. -/
def cp932 : Grid := ofRuns Runs.cp932

/-- Big5. -/
def big5 : Grid := ofRuns Runs.big5

/-- What code page 950 changes in Big5 or adds to it. -/
def big5Extended : Grid := ofRuns Runs.big5Extended

/-- What the Hong Kong supplement changes in Big5 or adds to it. -/
def hkscs : Grid := ofRuns Runs.hkscs

end Grid

end Mustache.Text
