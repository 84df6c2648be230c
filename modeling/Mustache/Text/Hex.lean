/-!
# Hexadecimal digits

Bytes are written as two hexadecimal digits each, the higher one first.

## Main definitions

* `Mustache.Text.hexDigits` — a number in hexadecimal, filled with zeros.
* `Mustache.Text.hexOf` — bytes in hexadecimal.
* `Mustache.Text.ofHex` — the bytes that hexadecimal digits stand for.
-/

namespace Mustache.Text

/-- The digits of `n` to the base sixteen, at least `width` of them. -/
def hexDigits (width n : Nat) : List Char :=
  let digits := Nat.toDigits 16 n
  List.replicate (width - digits.length) '0' ++ digits

/-- The value of a digit; letters beyond the decimal digits count from ten. -/
def digitValue (c : Char) : Nat :=
  if c.isDigit then c.toNat - '0'.toNat else c.toLower.toNat - 'a'.toNat + 10

/-- The value of a character that is a hexadecimal digit. -/
def hexValue? (c : Char) : Option Nat :=
  if c.isDigit || ('a' ≤ c.toLower && c.toLower ≤ 'f') then some (digitValue c) else none

/-- Bytes in hexadecimal. -/
def hexOf (bs : List UInt8) : String := String.ofList (bs.flatMap fun b => hexDigits 2 b.toNat)

/-- The bytes that pairs of hexadecimal digits stand for. -/
def bytesOfHex : List Char → List UInt8
  | c :: d :: rest => UInt8.ofNat (16 * digitValue c + digitValue d) :: bytesOfHex rest
  | _ => []

/-- The bytes that a text stands for. -/
def ofHex (s : String) : List UInt8 := bytesOfHex s.toList

/-- The number that decimal digits stand for. -/
def numberOf (digits : List Char) : Nat := digits.foldl (fun n c => 10 * n + digitValue c) 0

end Mustache.Text
