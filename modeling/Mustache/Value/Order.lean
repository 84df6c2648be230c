import Mustache.Value.Operations

/-!
# The order of values

Numbers are ordered by size, text and bytes as in a dictionary, and tuples by the first items in
which they differ. There is no order between values of different kinds.

## Main definitions

* `Mustache.Value.before?` — whether one value comes before another.
* `Mustache.Value.sorted?` — values in their order.

## Implementation notes

What is not a number comes before nothing and behind nothing, so that the outcome of sorting
depends on the comparisons that are made. Sorting takes the values that are in order at the start,
or in reverse order, and inserts the others one by one, each at the place that a binary search
finds behind the values that do not come after it.
-/

namespace Mustache.Value

/-- A finite floating-point number as a fraction. -/
def fraction? (x : Float) : Option (Int × Nat) :=
  (Decimal.Binary.ofFloat? x).map fun b =>
    let (num, den) := Decimal.Binary.scale b.significand b.exponent
    (if Decimal.isNegative x then -(num : Int) else num, den)

/-- Whether an integer is less than a floating-point number, exactly. -/
def intBelow (n : Int) (x : Float) : Bool :=
  match fraction? x with
  | some (num, den) => n * den < num
  | none => x > 0.0

/-- Whether a floating-point number is less than an integer, exactly. -/
def floatBelow (x : Float) (n : Int) : Bool :=
  match fraction? x with
  | some (num, den) => num < n * den
  | none => x < 0.0

/-- Whether one number comes before another. -/
def lessNumber? (v w : Value) : Option Bool :=
  match v, w with
  | float x _, float y _ => some (decide (x < y))
  | float x _, w => w.whole?.map (floatBelow x)
  | v, float y _ => v.whole?.map (intBelow · y)
  | v, w =>
    match v.whole?, w.whole? with
    | some m, some n => some (decide (m < n))
    | _, _ => none

mutual

/-- Whether the first value comes before the second; `none` if there is no order between them. -/
def before? : Value → Value → Option Bool
  | text s, text t => some (decide (s < t))
  | bytes bs, bytes cs => some (decide (bs < cs))
  | tuple vs, tuple ws => beforeAll? vs ws
  | v, w => v.lessNumber? w

/-- Whether the first items come before the second ones. -/
def beforeAll? : List Value → List Value → Option Bool
  | [], [] => some false
  | [], _ :: _ => some true
  | _ :: _, [] => some false
  | v :: vs, w :: ws => if v.sameKey w then beforeAll? vs ws else v.before? w

end

/-- The values up to the first one whose comparison with the one in front of it turns out
otherwise than asked for, and the values from there on. -/
def run? (descending : Bool) (previous : Value) : List Value → Option (List Value × List Value)
  | [] => some ([], [])
  | v :: vs =>
    match v.before? previous with
    | none => none
    | some lower =>
      if lower == descending then (run? descending v vs).map fun p => (v :: p.1, p.2)
      else some ([], v :: vs)

/-- The values that are in order at the start, and the rest. Values in reverse order are put in
order. -/
def firstRun? : List Value → Option (List Value × List Value)
  | [] => some ([], [])
  | [v] => some ([v], [])
  | v :: w :: rest =>
    match w.before? v with
    | none => none
    | some true => (run? true w rest).map fun p => ((v :: w :: p.1).reverse, p.2)
    | some false => (run? false w rest).map fun p => (v :: w :: p.1, p.2)

/-- The place for a value in sorted values, between `low` and `high`. The fuel is their
distance. -/
def placeFor? (v : Value) (sorted : List Value) (low high : Nat) : (fuel : Nat) → Option Nat
  | 0 => some low
  | fuel + 1 =>
    if high ≤ low then some low
    else
      let middle := low + (high - low) / 2
      match sorted[middle]? with
      | none => some low
      | some w =>
        match v.before? w with
        | none => none
        | some true => placeFor? v sorted low middle fuel
        | some false => placeFor? v sorted (middle + 1) high fuel

/-- Sorted values with one more. -/
def place? (sorted : List Value) (v : Value) : Option (List Value) :=
  (placeFor? v sorted 0 sorted.length sorted.length).map fun i =>
    sorted.take i ++ v :: sorted.drop i

/-- The values in their order. -/
def sorted? (vs : List Value) : Option (List Value) :=
  (firstRun? vs).bind fun p => p.2.foldlM place? p.1

end Mustache.Value
