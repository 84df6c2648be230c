/-!
# Shortest decimals

A floating-point number stands for an interval of reals, those that round to it. Its shortest
decimal is the one with the fewest digits that lies in the interval, and of those the nearest.

## Main definitions

* `Mustache.Decimal.Binary` — a significand and a power of two.
* `Mustache.Decimal.Binary.ofFloat?` — a finite number taken apart, exactly.
* `Mustache.Decimal.shortest` — the digits and the power of ten of the shortest decimal.

## Implementation notes

Everything is computed on natural numbers. On the grid of decimals with a given number of digits
only the two neighbours of the number need to be tested: if a point of the grid lies in the
interval, one of them does.
-/

namespace Mustache.Decimal

/-- The number `significand * 2 ^ exponent`. -/
structure Binary where
  significand : Nat
  exponent : Int
  deriving DecidableEq, Repr, Inhabited

namespace Binary

/-- The least significand of a number that is not too small for all its digits. -/
def leastFull : Nat := 1 <<< 52

/-- The absolute value of a finite number; `none` for infinities and for what is not a number. -/
def ofFloat? (x : Float) : Option Binary :=
  let bits := x.toBits.toNat
  let fraction : Nat := bits % leastFull
  let biased : Nat := bits / leastFull % 2048
  if biased = 2047 then none
  else if biased = 0 then some ⟨fraction, -1074⟩
  else some ⟨leastFull + fraction, (biased : Int) - 1075⟩

/-- Numerator and denominator of `n * 2 ^ e`. -/
def scale (n : Nat) (e : Int) : Nat × Nat :=
  match e with
  | .ofNat k => (n <<< k, 1)
  | .negSucc k => (n, 1 <<< (k + 1))

end Binary

/-- Whether the sign bit of a number is set. -/
def isNegative (x : Float) : Bool := x.toBits.toNat.testBit 63

/-- Ten to the power of `k`. -/
def powerOfTen (k : Nat) : Nat := Nat.pow 10 k

/-- The number of decimal digits of a positive number. -/
def digitCount (n : Nat) : Nat := (Nat.toDigits 10 n).length

/-- The least `k` for which the positive number `num / den` is below `10 ^ k`. -/
def magnitude (num den : Nat) : Int :=
  let k : Int := (digitCount num : Int) - digitCount den
  let below : Bool := match k with
    | .ofNat k => num < den * powerOfTen k
    | .negSucc k => num * powerOfTen (k + 1) < den
  if below then k else k + 1

/-- Numerator and denominator of `d * 10 ^ e`. -/
def scaleTen (d : Nat) (e : Int) : Nat × Nat :=
  match e with
  | .ofNat k => (d * powerOfTen k, 1)
  | .negSucc k => (d, powerOfTen (k + 1))

/-- The interval of the numbers that round to a given one, as fractions, and whether its ends
belong to it. -/
structure Interval where
  low : Nat × Nat
  high : Nat × Nat
  closed : Bool

/-- The interval around `b`. Below a power of two the floating-point numbers lie twice as
dense. -/
def Interval.around (b : Binary) : Interval :=
  let narrow := b.significand = Binary.leastFull ∧ b.exponent > -1074
  { low :=
      if narrow then Binary.scale (4 * b.significand - 1) (b.exponent - 2)
      else Binary.scale (2 * b.significand - 1) (b.exponent - 1)
    high := Binary.scale (2 * b.significand + 1) (b.exponent - 1)
    closed := b.significand % 2 = 0 }

/-- Whether one fraction is less than another. -/
def lessThan (x y : Nat × Nat) : Bool := x.1 * y.2 < y.1 * x.2

/-- Whether the interval holds a fraction. -/
def Interval.holds (i : Interval) (x : Nat × Nat) : Bool :=
  if i.closed then !lessThan x i.low && !lessThan i.high x
  else lessThan i.low x && lessThan x i.high

/-- The distance of two fractions. -/
def distance (x y : Nat × Nat) : Nat × Nat :=
  let a := x.1 * y.2
  let b := y.1 * x.2
  (if a < b then b - a else a - b, x.2 * y.2)

/-- The decimal with step `10 ^ e` that is nearest to `x` among the neighbours of `x` in the
interval. Of two that are equally near, the even one is taken. -/
def candidate? (i : Interval) (x : Nat × Nat) (e : Int) : Option Nat :=
  let unit := scaleTen 1 e
  let d := x.1 * unit.2 / (x.2 * unit.1)
  let lower := i.holds (scaleTen d e)
  let upper := i.holds (scaleTen (d + 1) e)
  match lower, upper with
  | true, true =>
    let down := distance x (scaleTen d e)
    let up := distance x (scaleTen (d + 1) e)
    if lessThan up down || (d % 2 == 1 && !lessThan down up) then some (d + 1) else some d
  | true, false => some d
  | false, true => some (d + 1)
  | false, false => none

/-- The first hit on the grids with `count` digits and more, `fuel` of them. -/
def search (i : Interval) (x : Nat × Nat) (k : Int) : (fuel count : Nat) → Nat × Int
  | 0, _ => (x.1 / x.2, 0)
  | fuel + 1, count =>
    match candidate? i x (k - count) with
    | some d => (d, k - count)
    | none => search i x k fuel (count + 1)

/-- Moves the zeros at the end of a number into the power of ten. -/
def dropZeros (fuel d : Nat) (e : Int) : Nat × Int :=
  match fuel with
  | 0 => (d, e)
  | fuel + 1 => if d ≠ 0 ∧ d % 10 = 0 then dropZeros fuel (d / 10) (e + 1) else (d, e)

/-- The shortest decimal `d * 10 ^ e` of a positive floating-point number, as `(d, e)`. Seventeen
digits always suffice. -/
def shortest (b : Binary) : Nat × Int :=
  let x := Binary.scale b.significand b.exponent
  let found := search (Interval.around b) x (magnitude x.1 x.2) 17 1
  dropZeros 20 found.1 found.2

end Mustache.Decimal
