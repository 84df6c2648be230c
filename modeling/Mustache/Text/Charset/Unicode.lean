/-!
# Bytes in units of Unicode

Text in UTF-8, UTF-16 and UTF-32. A mark in front of the bytes may say whether the high bytes of a
unit come first.

## Main definitions

* `Mustache.Text.DecodingFailure` — why bytes are not text.
* `Mustache.Text.Unicode.ofUtf8`, `Mustache.Text.Unicode.ofUtf16`, `Mustache.Text.Unicode.ofUtf32`
  — reading bytes in a fixed order.
* `Mustache.Text.Unicode.ofMarked` — reading bytes whose order a mark gives.
-/

namespace Mustache.Text

/-- Why bytes are not text. -/
inductive DecodingFailure where
  /-- Some of the bytes stand for nothing. -/
  | invalid
  /-- The bytes as a whole are refused, for instance because a mark of their order is missing. -/
  | refused
  deriving DecidableEq, Repr, Inhabited

/-- The answer, or the failure of bytes that stand for nothing. -/
def orInvalid {α : Type} : Option α → Except DecodingFailure α
  | some a => .ok a
  | none => .error .invalid

/-- The character with a code point, surrogates and what lies beyond the last plane apart. -/
def char? (n : Nat) : Option Char :=
  if n < 0xD800 || (0xDFFF < n && n < 0x110000) then some (Char.ofNat n) else none

namespace Unicode

/-- The number that a list of bytes writes to the base 256, the last byte counting most. -/
def littleEndian : List UInt8 → Nat
  | [] => 0
  | b :: bs => b.toNat + 256 * littleEndian bs

/-- The bytes in groups of `size`; `none` if some are left over. -/
def groups? (size : Nat) (bs : List UInt8) : (fuel : Nat) → Option (List (List UInt8))
  | 0 => if bs.isEmpty then some [] else none
  | fuel + 1 =>
    if bs.isEmpty then some []
    else if bs.length < size then none
    else (groups? size (bs.drop size) fuel).map (bs.take size :: ·)

/-- The numbers that the bytes write in groups of `size`. -/
def units? (size : Nat) (bigEndian : Bool) (bs : List UInt8) : Option (List Nat) :=
  (groups? size bs bs.length).map fun gs =>
    gs.map fun g => littleEndian (if bigEndian then g.reverse else g)

/-- The characters of units of sixteen bits. -/
def ofUnits16? : List Nat → Option (List Char)
  | [] => some []
  | [u] => (char? u).map ([·])
  | u :: v :: us =>
    if 0xD800 ≤ u && u ≤ 0xDBFF then
      if 0xDC00 ≤ v && v ≤ 0xDFFF then
        (ofUnits16? us).map (Char.ofNat (0x10000 + (u - 0xD800) * 0x400 + (v - 0xDC00)) :: ·)
      else none
    else
      match char? u with
      | none => none
      | some c => (ofUnits16? (v :: us)).map (c :: ·)

/-- The characters of units of thirty-two bits. -/
def ofUnits32? (us : List Nat) : Option (List Char) := us.mapM char?

/-- Whether a mark in front of the bytes says that the high bytes of units come first, and the
bytes behind the mark. -/
def markOf? (size : Nat) (bs : List UInt8) : Option (Bool × List UInt8) :=
  match bs, size with
  | 0xFE :: 0xFF :: rest, 2 => some (true, rest)
  | 0xFF :: 0xFE :: 0 :: 0 :: rest, 4 => some (false, rest)
  | 0xFF :: 0xFE :: rest, 2 => some (false, rest)
  | 0 :: 0 :: 0xFE :: 0xFF :: rest, 4 => some (true, rest)
  | _, _ => none

/-- Text in units of a size, with a mark of their order in front. Bytes that would be no text
whatever the mark are told from bytes that only lack it. -/
def ofMarked (size : Nat) (ofUnits? : List Nat → Option (List Char)) (bs : List UInt8) :
    Except DecodingFailure (List Char) :=
  if bs.isEmpty then .ok []
  else
    match markOf? size bs with
    | some (bigEndian, rest) => orInvalid ((units? size bigEndian rest).bind ofUnits?)
    | none =>
      match (units? size false bs).bind ofUnits? with
      | some _ => .error .refused
      | none => .error .invalid

/-- Text in UTF-16 with the bytes of a unit in the given order. -/
def ofUtf16 (bigEndian : Bool) (bs : List UInt8) : Except DecodingFailure (List Char) :=
  orInvalid ((units? 2 bigEndian bs).bind ofUnits16?)

/-- Text in UTF-32 with the bytes of a unit in the given order. -/
def ofUtf32 (bigEndian : Bool) (bs : List UInt8) : Except DecodingFailure (List Char) :=
  orInvalid ((units? 4 bigEndian bs).bind ofUnits32?)

/-- Text in UTF-8. -/
def ofUtf8 (bs : List UInt8) : Except DecodingFailure (List Char) :=
  orInvalid ((String.fromUTF8? (ByteArray.mk bs.toArray)).map String.toList)

/-- Text in UTF-8, with or without a mark in front. Nothing but the beginning of a mark is empty. -/
def ofMarkedUtf8 : List UInt8 → Except DecodingFailure (List Char)
  | [0xEF] | [0xEF, 0xBB] => .ok []
  | 0xEF :: 0xBB :: 0xBF :: rest => ofUtf8 rest
  | bs => ofUtf8 bs

end Unicode

end Mustache.Text
