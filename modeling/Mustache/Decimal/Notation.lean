import Mustache.Decimal.Shortest

/-!
# Decimal notation of numbers

The written form of a floating-point number is its shortest decimal. It stands in positional
notation, with at least one digit behind the point, as long as its first digit has a place value
from a ten-thousandth to below ten to the sixteenth; else an exponent of at least two digits
follows.

## Main definitions

* `Mustache.Decimal.Layout` — the choices of a notation.
* `Mustache.Decimal.written` — the written form of a floating-point number.
-/

namespace Mustache.Decimal

/-- The choices of a decimal notation. -/
structure Layout where
  /-- The least exponent of the first digit that is written positionally. -/
  leastPositional : Int
  /-- The least exponent of the first digit above those. -/
  firstScientific : Int
  /-- The least number of digits of an exponent. -/
  exponentDigits : Nat

/-- The layout of a number in a template. -/
def layout : Layout := ⟨-4, 16, 2⟩

/-- A list of zeros. -/
def zeros (n : Nat) : List Char := List.replicate n '0'

/-- Digits with a point before the place `k`, counted from the first digit. -/
def positional (digits : List Char) (k : Int) : List Char :=
  if k ≤ 0 then '0' :: '.' :: (zeros (-k).toNat ++ digits)
  else
    let k := k.toNat
    if digits.length ≤ k then digits ++ zeros (k - digits.length) ++ ['.', '0']
    else digits.take k ++ '.' :: digits.drop k

/-- Digits with a point behind the first and an exponent. -/
def scientific (least : Nat) (digits : List Char) (e : Int) : List Char :=
  let exponent := Nat.toDigits 10 e.natAbs
  let mantissa := match digits with
    | [] => []
    | [d] => [d]
    | d :: ds => d :: '.' :: ds
  mantissa ++ ['e', if e < 0 then '-' else '+'] ++ zeros (least - exponent.length) ++ exponent

/-- The written form of a positive number in a layout. -/
def writtenIn (l : Layout) (b : Binary) : List Char :=
  let (d, e) := shortest b
  let digits := Nat.toDigits 10 d
  let k := e + digits.length
  if l.leastPositional < k ∧ k ≤ l.firstScientific then positional digits k
  else scientific l.exponentDigits digits (k - 1)

/-- The written form of a floating-point number. -/
def written (x : Float) : String :=
  if x.isNaN then "nan"
  else
    let sign := if isNegative x then "-" else ""
    match Binary.ofFloat? x with
    | none => sign ++ "inf"
    | some b =>
      if b.significand = 0 then sign ++ "0.0" else sign ++ String.ofList (writtenIn layout b)

end Mustache.Decimal
