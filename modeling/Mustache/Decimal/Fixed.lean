import Mustache.Decimal.Shortest

/-!
# Decimals with a given number of places

A number can be written with a fixed number of places behind the point, or with a fixed number of
digits and an exponent. The last digit is rounded to the nearest, a half to the even neighbour.

## Main definitions

* `Mustache.Decimal.roundDiv` — a quotient rounded to the nearest integer.
* `Mustache.Decimal.fixed`, `Mustache.Decimal.exponential`, `Mustache.Decimal.general` — the three
  notations.
-/

namespace Mustache.Decimal

/-- The quotient rounded to the nearest integer, a half to the even neighbour. -/
def roundDiv (num den : Nat) : Nat :=
  let q := num / den
  let r := num % den
  if 2 * r < den then q else if den < 2 * r then q + 1 else if q % 2 = 0 then q else q + 1

/-- The digits of `n`, at least `width` of them. -/
def digitsOf (width n : Nat) : List Char :=
  let digits := Nat.toDigits 10 n
  List.replicate (width - digits.length) '0' ++ digits

/-- The digits with a point in front of the last `places`; without places the point is only
written on request. -/
def pointed (keepPoint : Bool) (places : Nat) (digits : List Char) : List Char :=
  let whole := digits.length - places
  digits.take whole ++ (if places = 0 ∧ !keepPoint then [] else '.' :: digits.drop whole)

/-- A fraction with a fixed number of places. -/
def fixed (keepPoint : Bool) (places num den : Nat) : List Char :=
  pointed keepPoint places (digitsOf (places + 1) (roundDiv (num * powerOfTen places) den))

/-- The number of `digits` digits to which a positive fraction rounds, and the place value of its
first digit. -/
def rounded (digits num den : Nat) : Nat × Int :=
  let k := magnitude num den - 1
  let scaled (k : Int) : Nat :=
    match k - (digits - 1) with
    | .ofNat e => roundDiv num (den * powerOfTen e)
    | .negSucc e => roundDiv (num * powerOfTen (e + 1)) den
  let n := scaled k
  if n = powerOfTen digits then (powerOfTen (digits - 1), k + 1) else (n, k)

/-- An exponent with its sign and at least two digits. -/
def exponentText (e : Int) : List Char :=
  ['e', if e < 0 then '-' else '+'] ++ digitsOf 2 e.natAbs

/-- A fraction with one digit before the point, a fixed number of places and an exponent. -/
def exponential (keepPoint : Bool) (places num den : Nat) : List Char :=
  let (n, k) := if num = 0 then (0, 0) else rounded (places + 1) num den
  pointed keepPoint places (digitsOf (places + 1) n) ++ exponentText k

/-- The digits without zeros behind the point, and without the point if nothing is left
behind it. -/
def stripped (digits : List Char) : List Char :=
  if digits.contains '.' then
    ((digits.reverse.dropWhile (· == '0')).dropWhile (· == '.')).reverse
  else digits

/-- A fraction with a number of significant digits, in positional notation unless its place value
is too small or too large. Zeros at the end are kept on request. -/
def general (keepZeros : Bool) (precision num den : Nat) : List Char :=
  let digits := max 1 precision
  let (n, k) := if num = 0 then (0, 0) else rounded digits num den
  let trimmed (cs : List Char) : List Char := if keepZeros then cs else stripped cs
  if -4 ≤ k ∧ k < digits then
    trimmed (pointed keepZeros (digits - 1 - k).toNat (digitsOf ((digits - 1 - k).toNat + 1) n))
  else trimmed (pointed keepZeros (digits - 1) (digitsOf digits n)) ++ exponentText k

end Mustache.Decimal
