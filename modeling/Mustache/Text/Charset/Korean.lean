import Mustache.Text.Charset.Chinese

/-!
# Korean charsets

The charsets on the grid of KS X 1001. The grid has only the frequent syllables, and the charsets
differ in how they write the others: as a sequence of letters, in cells of their own, or with the
numbers of their letters in every syllable.

## Main definitions

* `Mustache.Text.Syllable` — a syllable by its letters.
* `Mustache.Text.Stateless.eucKr`, `Mustache.Text.Stateless.cp949`,
  `Mustache.Text.Stateless.johab` — the charsets.
-/

namespace Mustache.Text

/-- The numbers of the letters of a syllable: initial, vowel and final. The final number zero is
that of no letter. -/
structure Syllable where
  initial : Nat
  vowel : Nat
  final : Nat
  deriving DecidableEq, Repr, Inhabited

namespace Syllable

/-- The letters at the beginning of a syllable. -/
def initials : List Char := "ㄱㄲㄴㄷㄸㄹㅁㅂㅃㅅㅆㅇㅈㅉㅊㅋㅌㅍㅎ".toList

/-- The vowels. -/
def vowels : List Char := "ㅏㅐㅑㅒㅓㅔㅕㅖㅗㅘㅙㅚㅛㅜㅝㅞㅟㅠㅡㅢㅣ".toList

/-- The sign for a missing letter. -/
def filler : Char := '\u3164'

/-- The letters at the end of a syllable, after the sign for none. -/
def finals : List Char := filler :: "ㄱㄲㄳㄴㄵㄶㄷㄹㄺㄻㄼㄽㄾㄿㅀㅁㅂㅄㅅㅆㅇㅈㅊㅋㅌㅍㅎ".toList

/-- The letters of the syllable that a character is. -/
def ofChar? (c : Char) : Option Syllable :=
  let n := c.toNat - 0xAC00
  if 0xAC00 ≤ c.toNat && c.toNat ≤ 0xD7A3 then some ⟨n / 588, n / 28 % 21, n % 28⟩ else none

/-- The character that a syllable is. -/
def toChar (s : Syllable) : Char := Char.ofNat (0xAC00 + (s.initial * 21 + s.vowel) * 28 + s.final)

/-- The letters one by one, the sign for none included. -/
def letters (s : Syllable) : List Char :=
  [(initials[s.initial]?).getD filler, (vowels[s.vowel]?).getD filler,
    (finals[s.final]?).getD filler]

/-- The syllable with the given letters. -/
def ofLetters? (initial vowel final : Char) : Option Syllable := do
  pure ⟨← initials.idxOf? initial, ← vowels.idxOf? vowel, ← finals.idxOf? final⟩

end Syllable

namespace Layout

/-- The first area of the rare syllables, in rows of 178 cells. -/
def rareFirst : Layout := ⟨[(0x81, 0xA0)], [(0x41, 0x5A), (0x61, 0x7A), (0x81, 0xFE)], 178⟩

/-- The second area of the rare syllables, in rows of 84 cells. -/
def rareSecond : Layout := ⟨[(0xA1, 0xC6)], [(0x41, 0x5A), (0x61, 0x7A), (0x81, 0xA0)], 84⟩

end Layout

namespace Stateless

/-- The bytes of a character of KS X 1001. -/
def ksx1001Bytes? (c : Char) : Option (List Nat) := (Grid.ksx1001.cell? c).map Layout.high.bytes

/-- The character of KS X 1001 that two bytes stand for. -/
def ksx1001Char? (a b : Nat) : Option Char := (Layout.high.cell? a b).bind Grid.ksx1001.char?

/-- The syllable of a sequence of four characters: the filler and the letters. -/
def readLetters : List Nat → Option (List Char × List Nat)
  | a :: b :: c :: d :: e :: f :: rest => do
    let s ← Syllable.ofLetters? (← ksx1001Char? a b) (← ksx1001Char? c d) (← ksx1001Char? e f)
    pure ([s.toChar], rest)
  | _ => none

/-- KS X 1001 with the high bit. A syllable that is not in the grid is written as the filler and
its letters. -/
def eucKr : Stateless where
  write
    | [c] => asciiBytes? c <|> ksx1001Bytes? c <|>
        (Syllable.ofChar? c).map fun s =>
          (Syllable.filler :: s.letters).flatMap fun l => (ksx1001Bytes? l).getD []
    | _ => none
  read
    | [] => none
    | a :: rest =>
      if a < 128 then some ([Char.ofNat a], rest)
      else
        match rest with
        | b :: rest => do
          let c ← ksx1001Char? a b
          if c == Syllable.filler then readLetters rest else pure ([c], rest)
        | [] => none

/-- The number of rare syllables in the first area. -/
def rareFirstSize : Nat := 32 * 178

/-- Code page 949, with cells of their own for the rare syllables. -/
def cp949 : Stateless :=
  ofTwoBytes
    (fun c => ksx1001Bytes? c <|> (Grid.rareSyllables.cell? c).map fun cell =>
      if cell < rareFirstSize then Layout.rareFirst.bytes cell
      else Layout.rareSecond.bytes (cell - rareFirstSize))
    fun a b => ksx1001Char? a b <|>
      ((Layout.rareFirst.cell? a b).bind Grid.rareSyllables.char?) <|>
      ((Layout.rareSecond.cell? a b).bind fun cell =>
        Grid.rareSyllables.char? (rareFirstSize + cell))

/-! ## Syllables by their letters -/

/-- The codes of initials, from the first letter on. -/
def initialCodes : List (Nat × Nat) := [(2, 20)]

/-- The codes of vowels, from the first letter on. -/
def vowelCodes : List (Nat × Nat) := [(3, 7), (10, 15), (18, 23), (26, 29)]

/-- The codes of finals, from that of none on. -/
def finalCodes : List (Nat × Nat) := [(1, 17), (19, 29)]

/-- The code of a missing initial or final. -/
def noConsonant : Nat := 1

/-- The code of a missing vowel. -/
def noVowel : Nat := 2

/-- The bytes of three codes of five bits each. -/
def codeBytes (initial vowel final : Nat) : List Nat :=
  let n := 0x8000 + initial * 1024 + vowel * 32 + final
  [n / 256, n % 256]

/-- The bytes of a letter that stands alone. -/
def letterBytes? (c : Char) : Option (List Nat) :=
  ((Syllable.initials.idxOf? c).map fun i =>
    codeBytes (byteAt initialCodes i) noVowel noConsonant) <|>
  ((Syllable.vowels.idxOf? c).map fun v =>
    codeBytes noConsonant (byteAt vowelCodes v) noConsonant) <|>
  (((Syllable.finals.drop 1).idxOf? c).map fun f =>
    codeBytes noConsonant noVowel (byteAt finalCodes (f + 1)))

/-- The character that three codes stand for: a syllable, a letter that stands alone, or a
space. -/
def charOfCodes? (initial vowel final : Nat) : Option Char := do
  if initial == noConsonant then
    if vowel == noVowel then
      let f ← placeIn? finalCodes final
      if f == 0 then pure '\u3000' else Syllable.finals[f]?
    else
      let v ← placeIn? vowelCodes vowel
      if final == noConsonant then Syllable.vowels[v]? else none
  else
    let i ← placeIn? initialCodes initial
    if vowel == noVowel then
      if final == noConsonant then Syllable.initials[i]? else none
    else
      pure (Syllable.toChar ⟨i, ← placeIn? vowelCodes vowel, ← placeIn? finalCodes final⟩)

/-- The second bytes of characters that are not syllables. Two rows of the grid have one first
byte. -/
def johabTrails : List (Nat × Nat) := [(0x31, 0x7E), (0x91, 0xFE)]

/-- The first bytes of characters that are not syllables: symbols, then ideographs. -/
def johabLeads : List (Nat × Nat) := [(0xD9, 0xDE), (0xE0, 0xF9)]

/-- The row of KS X 1001 whose cells the byte after the symbols starts with. -/
def firstIdeographRow : Nat := 0x29

/-- The cell of KS X 1001 at a place in rows of 188. -/
def johabCell (place : Nat) : Nat :=
  if place < 6 * 188 then place else place - 6 * 188 + firstIdeographRow * 94

/-- The place in rows of 188 of a cell of KS X 1001, unless it is in a row of syllables. -/
def johabPlace? (cell : Nat) : Option Nat :=
  if cell < 12 * 94 then some cell
  else if firstIdeographRow * 94 ≤ cell then some (cell - firstIdeographRow * 94 + 6 * 188)
  else none

/-- The layout of the characters that are not syllables. -/
def johabLayout : Layout := ⟨johabLeads, johabTrails, 188⟩

/-- The charset that writes syllables with the codes of their letters. -/
def johab : Stateless :=
  ofTwoBytes
    (fun c =>
      ((Syllable.ofChar? c).map fun s =>
        codeBytes (byteAt initialCodes s.initial) (byteAt vowelCodes s.vowel)
          (byteAt finalCodes s.final)) <|>
      letterBytes? c <|>
      ((Grid.ksx1001.cell? c).bind johabPlace?).map johabLayout.bytes)
    fun a b =>
      if a < 0xD8 then charOfCodes? (a / 4 % 32) (a % 4 * 8 + b / 32) (b % 32)
      else if a == 0xDA && 0xA1 ≤ b && b ≤ 0xD3 then none
      else (johabLayout.cell? a b).bind fun place => Grid.ksx1001.char? (johabCell place)

end Stateless

end Mustache.Text
