import Mustache.Text.Charset.Stateless

/-!
# Chinese charsets

The charsets on the grids of GB 2312 and Big5, with their extensions.

## Main definitions

* `Mustache.Text.Stateless.gb2312`, `Mustache.Text.Stateless.gbk`,
  `Mustache.Text.Stateless.decodeGb18030` — the charsets on GB 2312.
* `Mustache.Text.Stateless.big5`, `Mustache.Text.Stateless.cp950`,
  `Mustache.Text.Stateless.big5Hkscs` — the charsets on Big5.
-/

namespace Mustache.Text

namespace Layout

/-- Rows of 190 cells. -/
def gbk : Layout := ⟨[(0x81, 0xFE)], [(0x40, 0x7E), (0x80, 0xFE)], 190⟩

/-- The first area of the ideographs of GBK, in rows of 190 cells. -/
def gbkFirst : Layout := ⟨[(0x81, 0xA0)], [(0x40, 0x7E), (0x80, 0xFE)], 190⟩

/-- The second area of the ideographs of GBK, in rows of 96 cells. -/
def gbkSecond : Layout := ⟨[(0xAA, 0xFE)], [(0x40, 0x7E), (0x80, 0xA0)], 96⟩

/-- Rows of 157 cells. -/
def big5 : Layout := ⟨[(0x81, 0xFE)], [(0x40, 0x7E), (0xA1, 0xFE)], 157⟩

end Layout

namespace Stateless

/-- A charset of ASCII and characters of two bytes. -/
def ofTwoBytes (write : Char → Option (List Nat)) (read : Nat → Nat → Option Char) :
    Stateless where
  write
    | [c] => asciiBytes? c <|> write c
    | _ => none
  read
    | [] => none
    | a :: rest =>
      if a < 128 then some ([Char.ofNat a], rest)
      else
        match rest with
        | b :: rest => (read a b).map fun c => ([c], rest)
        | [] => none

/-- GB 2312 with the high bit. -/
def gb2312 : Stateless :=
  ofTwoBytes (fun c => (Grid.gb2312.cell? c).map Layout.high.bytes)
    fun a b => (Layout.high.cell? a b).bind Grid.gb2312.char?

/-- The number of ideographs in the first area of GBK. -/
def gbkFirstSize : Nat := 32 * 190

/-- The character that two bytes stand for in GBK. -/
def gbkChar? (a b : Nat) : Option Char :=
  ((Layout.gbk.cell? a b).bind Grid.gbkSymbols.char?) <|>
    ((Layout.high.cell? a b).bind Grid.gb2312.char?) <|>
    ((Layout.gbkFirst.cell? a b).bind Grid.gbkIdeographs.char?) <|>
    ((Layout.gbkSecond.cell? a b).bind fun cell => Grid.gbkIdeographs.char? (gbkFirstSize + cell))

/-- The bytes of an ideograph of GBK. -/
def gbkIdeographBytes (cell : Nat) : List Nat :=
  if cell < gbkFirstSize then Layout.gbkFirst.bytes cell
  else Layout.gbkSecond.bytes (cell - gbkFirstSize)

/-- GBK. A character of GB 2312 whose cell GBK changes does not fit. -/
def gbk : Stateless :=
  ofTwoBytes
    (fun c =>
      ((Grid.gbkSymbols.cell? c).map Layout.gbk.bytes) <|>
        (((Grid.gb2312.cell? c).map Layout.high.bytes).filter fun
          | [a, b] => gbkChar? a b == some c
          | _ => false) <|>
        ((Grid.gbkIdeographs.cell? c).map gbkIdeographBytes))
    gbkChar?

/-- The first characters for private use in GB 18030: the layout of an area, and the code point
of its first cell. -/
def privateAreas : List (Layout × Nat) := [
  (⟨[(0xAA, 0xAF)], [(0xA1, 0xFE)], 94⟩, 0xE000), (⟨[(0xF8, 0xFE)], [(0xA1, 0xFE)], 94⟩, 0xE234),
  (⟨[(0xA1, 0xA7)], [(0x40, 0x7E), (0x80, 0xA0)], 96⟩, 0xE4C6)]

/-- The character that two bytes stand for in GB 18030. -/
def gb18030Pair? (a b : Nat) : Option Char :=
  gbkChar? a b <|> ((Layout.gbk.cell? a b).bind Grid.gb18030.char?) <|>
    privateAreas.findSome? fun (layout, first) =>
      (layout.cell? a b).map fun cell => Char.ofNat (first + cell)

/-- The code points of the characters that two bytes stand for in GB 18030. -/
def gb18030Pairs : Thunk (Std.HashSet Nat) := Thunk.mk fun _ =>
  Std.HashSet.ofList ((List.range 23940).filterMap fun cell =>
    match Layout.gbk.bytes cell with
    | [a, b] => (gb18030Pair? a b).map Char.toNat
    | _ => none)

/-- The characters of the first plane that take four bytes in GB 18030, in their order. -/
def gb18030Rest : Thunk (Array Char) := Thunk.mk fun _ =>
  ((List.range' 128 (0x10000 - 128)).filter fun n =>
    (n < 0xD800 || 0xDFFF < n) && !gb18030Pairs.get.contains n).map Char.ofNat |>.toArray

/-- The character with a number among those that take four bytes in GB 18030. -/
def gb18030Quad? (n : Nat) : Option Char :=
  if n < 189000 then gb18030Rest.get[n]?
  else if n - 189000 < 0x100000 then some (Char.ofNat (0x10000 + (n - 189000)))
  else none

/-- The number that the bytes `a`, `b`, `c`, `d` stand for in GB 18030, if they do. -/
def quadNumber? (a b c d : Nat) : Option Nat := do
  let a ← offsetIn? 0x81 0xFE a
  let b ← offsetIn? 0x30 0x39 b
  let c ← offsetIn? 0x81 0xFE c
  let d ← offsetIn? 0x30 0x39 d
  pure (((a * 10 + b) * 126 + c) * 10 + d)

/-- The character in front of some bytes in GB 18030, which has two bytes or four for all
characters outside ASCII, and the bytes that are left. -/
def readGb18030 : List Nat → Option (List Char × List Nat)
  | [] => none
  | a :: rest =>
    if a < 128 then some ([Char.ofNat a], rest)
    else
      match rest with
      | b :: c :: d :: rest =>
        if 0x30 ≤ b && b ≤ 0x39 then
          ((quadNumber? a b c d).bind gb18030Quad?).map fun ch => ([ch], rest)
        else (gb18030Pair? a b).map fun ch => ([ch], c :: d :: rest)
      | b :: rest => (gb18030Pair? a b).map fun ch => ([ch], rest)
      | [] => none

/-- The text that bytes stand for in GB 18030. -/
def decodeGb18030 (bs : List Nat) : Option (List Char) :=
  decode ⟨fun _ => none, readGb18030⟩ bs

/-- Big5. -/
def big5 : Stateless :=
  ofTwoBytes (fun c => (Grid.big5.cell? c).map Layout.big5.bytes)
    fun a b => (Layout.big5.cell? a b).bind Grid.big5.char?

/-- Code page 950. Characters of Big5 whose cell it changes fit, but are read as others. -/
def cp950 : Stateless :=
  ofTwoBytes
    (fun c => (Grid.big5Extended.cell? c <|> Grid.big5.cell? c).map Layout.big5.bytes)
    fun a b => (Layout.big5.cell? a b).bind fun cell =>
      Grid.big5Extended.char? cell <|> Grid.big5.char? cell

/-- The letters of the Hong Kong supplement that are written together with the mark that
follows. -/
def markedLetters : List (Nat × List Char) := [
  (0x8862, ['Ê', '\u0304']), (0x8864, ['Ê', '\u030c']), (0x88A3, ['ê', '\u0304']),
  (0x88A5, ['ê', '\u030c'])]

/-- The cells of Big5 that the Hong Kong supplement takes for itself. -/
def isSupplementary (a b : Nat) : Bool := a == 0xC7 || a == 0xC8 || (a == 0xC6 && 0xA1 ≤ b)

/-- Big5 with the Hong Kong supplement. -/
def big5Hkscs : Stateless where
  write
    | [c] =>
      asciiBytes? c <|> ((Grid.hkscs.cell? c <|> Grid.big5.cell? c).map Layout.big5.bytes)
    | u => (markedLetters.find? fun entry => entry.2 == u).map fun entry =>
        [entry.1 / 256, entry.1 % 256]
  read
    | [] => none
    | a :: rest =>
      if a < 128 then some ([Char.ofNat a], rest)
      else
        match rest with
        | [] => none
        | b :: rest =>
          match markedLetters.lookup (a * 256 + b) with
          | some u => some (u, rest)
          | none =>
            ((Layout.big5.cell? a b).bind fun cell =>
              Grid.hkscs.char? cell <|>
                if isSupplementary a b then none else Grid.big5.char? cell).map
              fun c => ([c], rest)

end Stateless

end Mustache.Text
