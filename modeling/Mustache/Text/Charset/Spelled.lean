import Mustache.Text.Charset.Unicode
import Mustache.Text.Hex

/-!
# Charsets that spell characters in ASCII

Some charsets write all characters with those of ASCII or with the first 256: as numbers to the
base 64 between marks, as escape sequences, or as a list of insertions after the text.

## Main definitions

* `Mustache.Text.Spelled.readUtf7` — UTF-7.
* `Mustache.Text.Spelled.readEscapes` — escape sequences with a backslash.
* `Mustache.Text.Spelled.writeRaw`, `Mustache.Text.Spelled.readRaw` — code points with a
  backslash, while a backslash in the text stays as it is.
* `Mustache.Text.Spelled.readPunycode` — insertions.
-/

namespace Mustache.Text.Spelled

/-! ## UTF-7 -/

/-- The digit to the base 64 that a byte stands for. -/
def digit64? (b : Nat) : Option Nat :=
  if 0x41 ≤ b && b ≤ 0x5A then some (b - 0x41)
  else if 0x61 ≤ b && b ≤ 0x7A then some (b - 0x61 + 26)
  else if 0x30 ≤ b && b ≤ 0x39 then some (b - 0x30 + 52)
  else if b == 0x2B then some 62
  else if b == 0x2F then some 63
  else none

/-- The bits that have been read and do not make a unit yet, and the first half of a pair of
units, which waits for the second. -/
structure Pending where
  bits : Nat
  count : Nat
  half : Option Nat

/-- No bits. -/
def Pending.none : Pending := ⟨0, 0, .none⟩

/-- The bits with another digit, and the character that is complete with it. Half a pair alone is
no character, and the answer is `none`. -/
def Pending.add? (p : Pending) (digit : Nat) : Option (Pending × List Char) :=
  let bits := p.bits * 64 + digit
  let count := p.count + 6
  if count < 16 then some (⟨bits, count, p.half⟩, [])
  else
    let spare := 1 <<< (count - 16)
    let unit := bits / spare
    let rest := bits % spare
    match p.half with
    | some high =>
      if 0xDC00 ≤ unit && unit ≤ 0xDFFF then
        some (⟨rest, count - 16, .none⟩,
          [Char.ofNat (0x10000 + (high - 0xD800) * 0x400 + (unit - 0xDC00))])
      else .none
    | .none =>
      if 0xD800 ≤ unit && unit ≤ 0xDBFF then some (⟨rest, count - 16, some unit⟩, [])
      else (char? unit).map fun c => (⟨rest, count - 16, .none⟩, [c])

/-- Whether the numbers may end: less than a digit is left over, and all of it is zero. -/
def Pending.isDone (p : Pending) : Bool := p.count < 6 && p.bits == 0 && p.half.isNone

/-- Reads UTF-7, with the bits that are pending between marks. -/
def readUtf7From : Option Pending → List Nat → Option (List Char)
  | none, [] => some []
  | some p, [] => if p.isDone then some [] else none
  | none, 0x2B :: 0x2D :: bs => (readUtf7From none bs).map ('+' :: ·)
  | none, 0x2B :: b :: bs =>
    match digit64? b with
    | none => none
    | some d => (Pending.none.add? d).bind fun (p, cs) => (readUtf7From (some p) bs).map (cs ++ ·)
  | none, [0x2B] => some []
  | none, b :: bs => if b < 128 then (readUtf7From none bs).map (Char.ofNat b :: ·) else none
  | some p, b :: bs =>
    match digit64? b with
    | some d => (p.add? d).bind fun (p, cs) => (readUtf7From (some p) bs).map (cs ++ ·)
    | none =>
      if !p.isDone then none
      else if b == 0x2D then readUtf7From none bs
      else if b < 128 then (readUtf7From none bs).map (Char.ofNat b :: ·)
      else none

/-- The text that bytes stand for in UTF-7. -/
def readUtf7 (bs : List Nat) : Option (List Char) := readUtf7From none bs

/-! ## Escape sequences -/

/-- The number that hexadecimal digits write. -/
def hexNumber? (digits : List Nat) : Option Nat :=
  digits.foldlM (fun n d => (hexValue? (Char.ofNat d)).map (n * 16 + ·)) 0

/-- The character that `count` hexadecimal digits in front stand for, and what is left. -/
def hexChar? (count : Nat) (bs : List Nat) : Option (Char × List Nat) :=
  if bs.length < count then none
  else ((hexNumber? (bs.take count)).bind char?).map fun c => (c, bs.drop count)

/-- Whether a byte is an octal digit. -/
def isOctal (b : Nat) : Bool := 0x30 ≤ b && b ≤ 0x37

/-- The characters that single letters stand for after a backslash. -/
def letterEscapes : List (Nat × Char) := [
  (0x5C, '\\'), (0x27, '\''), (0x22, '"'), (0x61, '\x07'), (0x62, '\x08'), (0x74, '\t'),
  (0x6E, '\n'), (0x76, '\x0b'), (0x66, '\x0c'), (0x72, '\r')]

/-- What stands for the bytes after a backslash, and what is left. A backslash at the end of a
line joins it with the next one. A sequence without a meaning stands for itself. -/
def escape? : List Nat → Option (List Char × List Nat)
  | [] => none
  | 0x0A :: bs => some ([], bs)
  | 0x78 :: bs => (hexChar? 2 bs).map fun (c, bs) => ([c], bs)
  | 0x75 :: bs => (hexChar? 4 bs).map fun (c, bs) => ([c], bs)
  | 0x55 :: bs => (hexChar? 8 bs).map fun (c, bs) => ([c], bs)
  | 0x4E :: _ => none
  | b :: bs =>
    match letterEscapes.lookup b with
    | some c => some ([c], bs)
    | none =>
      if isOctal b then
        let digits := ((b :: bs).take 3).takeWhile isOctal
        some ([Char.ofNat (digits.foldl (fun n d => n * 8 + (d - 0x30)) 0)],
          (b :: bs).drop digits.length)
      else some (['\\', Char.ofNat b], bs)

/-- Reads bytes in which a backslash begins what `sequence` reads, for as long as `fuel`
lasts. -/
def readWith (sequence : List Nat → Option (List Char × List Nat)) :
    (fuel : Nat) → List Nat → Option (List Char)
  | _, [] => some []
  | 0, _ => none
  | fuel + 1, b :: bs =>
    if b == 0x5C then
      (sequence bs).bind fun (cs, rest) => (readWith sequence fuel rest).map (cs ++ ·)
    else (readWith sequence fuel bs).map (Char.ofNat b :: ·)

/-- The text that bytes with escape sequences stand for. -/
def readEscapes (bs : List Nat) : Option (List Char) := readWith escape? bs.length bs

/-- What stands for the bytes after a backslash, if only code points are sequences. -/
def codePoint? : List Nat → Option (List Char × List Nat)
  | 0x75 :: bs => (hexChar? 4 bs).map fun (c, bs) => ([c], bs)
  | 0x55 :: bs => (hexChar? 8 bs).map fun (c, bs) => ([c], bs)
  | b :: bs => some (['\\', Char.ofNat b], bs)
  | [] => some (['\\'], [])

/-- The text that bytes with code points stand for. -/
def readRaw (bs : List Nat) : Option (List Char) := readWith codePoint? bs.length bs

/-- The bytes of a text with code points for the characters after the first 256. -/
def writeRaw (cs : List Char) : List Nat :=
  cs.flatMap fun c =>
    if c.toNat < 256 then [c.toNat]
    else if c.toNat < 0x10000 then
      0x5C :: 0x75 :: (hexDigits 4 c.toNat).map Char.toNat
    else 0x5C :: 0x55 :: (hexDigits 8 c.toNat).map Char.toNat

/-! ## Insertions -/

/-- The digit to the base 36 that a byte stands for. -/
def digit36? (b : Nat) : Option Nat :=
  if 0x41 ≤ b && b ≤ 0x5A then some (b - 0x41)
  else if 0x61 ≤ b && b ≤ 0x7A then some (b - 0x61)
  else if 0x30 ≤ b && b ≤ 0x39 then some (b - 0x30 + 26)
  else none

/-- The least digit that does not end a number, at a place in it. -/
def threshold (place bias : Nat) : Nat := max 1 (min 26 (36 * (place + 1) - bias))

/-- A number and the bytes behind it. -/
def number? (bias : Nat) (place weight sum : Nat) : List Nat → Option (Nat × List Nat)
  | [] => none
  | b :: bs =>
    match digit36? b with
    | none => none
    | some d =>
      let t := threshold place bias
      if d < t then some (sum + d * weight, bs)
      else number? bias (place + 1) (weight * (36 - t)) (sum + d * weight) bs

/-- Divides a number until it is small, and counts the divisions. -/
def scaled (delta : Nat) : Nat × Nat :=
  if 455 < delta then
    let (rest, divisions) := scaled (delta / 35)
    (rest, divisions + 1)
  else (delta, 0)
termination_by delta
decreasing_by omega

/-- The bias after a number. -/
def adapted (delta : Nat) (isFirst : Bool) (size : Nat) : Nat :=
  let halved := if isFirst then delta / 700 else delta / 2
  let (rest, divisions) := scaled (halved + halved / size)
  36 * divisions + 36 * rest / (rest + 38)

/-- Carries out the insertions that the bytes list, for as long as `fuel` lasts. -/
def insertFrom (fuel : Nat) (isFirst : Bool) (code pos bias : Nat) (text : List Char)
    (bs : List Nat) : Option (List Char) :=
  match fuel, bs with
  | _, [] => some text
  | 0, _ => none
  | fuel + 1, bs =>
    (number? bias 0 1 0 bs).bind fun (delta, rest) =>
      let size := text.length + 1
      let sum := pos + delta
      let code := code + sum / size
      let pos := sum % size
      (char? code).bind fun c =>
        insertFrom fuel false code (pos + 1) (adapted delta isFirst size)
          (text.take pos ++ c :: text.drop pos) rest

/-- The parts in front of the last hyphen and behind it. Without one all is behind it. -/
def splitAtLastHyphen (bs : List Nat) : List Nat × List Nat :=
  let behind := (bs.reverse.takeWhile (· != 0x2D)).reverse
  (bs.take (bs.length - behind.length - 1), behind)

/-- The text that bytes stand for as insertions into the part in front of the last hyphen. -/
def readPunycode (bs : List Nat) : Except DecodingFailure (List Char) :=
  if bs.any (128 ≤ ·) then .error .invalid
  else
    let (base, numbers) := splitAtLastHyphen bs
    match insertFrom numbers.length true 128 0 72 (base.map Char.ofNat) numbers with
    | some cs => .ok cs
    | none => .error .refused

/-! ## Labels -/

/-- What a label begins with if insertions follow. -/
def labelMark : List Nat := "xn--".toList.map Char.toNat

/-- The greatest length of a label with insertions. -/
def labelLimit : Nat := 63

/-- The text that a label stands for. Insertions into a label that are not needed are refused. -/
def readLabel (bs : List Nat) : Except DecodingFailure (List Char) :=
  if labelMark.isPrefixOf bs then
    match readPunycode (bs.drop labelMark.length) with
    | .ok cs =>
      if bs.length ≤ labelLimit && cs.any fun c => 128 ≤ c.toNat then .ok cs else .error .refused
    | .error e => .error e
  else .ok (bs.map Char.ofNat)

/-- The labels between points. -/
def labels (bs : List Nat) : List (List Nat) := bs.splitOn 0x2E

/-- The text of labels, with the points between them. -/
def readLabels (bs : List Nat) : Except DecodingFailure (List Char) :=
  if bs.any (128 ≤ ·) then .error .invalid
  else ((labels bs).mapM readLabel).map fun parts => ['.'].intercalate parts

end Mustache.Text.Spelled
