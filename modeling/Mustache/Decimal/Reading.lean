import Mustache.Text.Blank
import Mustache.Text.Hex

/-!
# Reading decimal numbers

A floating-point number is read from a sign, digits with a point among them, and an exponent, all
but the digits being optional; infinity and what is no number are words.

## Main definitions

* `Mustache.Decimal.read` — the floating-point number that a text stands for.
-/

namespace Mustache.Decimal

/-- The exponent behind its letter. -/
def readExponent : List Char → Int
  | _ :: '-' :: ds => -(Text.numberOf ds : Int)
  | _ :: '+' :: ds | _ :: ds => Text.numberOf ds
  | [] => 0

/-- The digits behind a point, and the rest. -/
def readFraction : List Char → List Char × List Char
  | '.' :: cs => (cs.takeWhile Char.isDigit, cs.dropWhile Char.isDigit)
  | cs => ([], cs)

/-- The greatest number of digits in front of the point that a finite number has. -/
def mostDigits : Int := 310

/-- The greatest number of zeros between the point and the digits of a number other than zero. -/
def mostZeros : Int := 330

/-- The number nearest to `digits` times ten to the power of `scale`. What is beyond all numbers
is not computed. -/
def nearest (digits : List Char) (scale : Int) : Float :=
  let size := digits.length + scale
  if digits.isEmpty || size < -mostZeros then 0.0
  else if mostDigits < size then 1.0 / 0.0
  else Float.ofScientific (Text.numberOf digits) (scale < 0) scale.natAbs

/-- The number nearest to an unsigned decimal. -/
def readDigits (cs : List Char) : Float :=
  let whole := cs.takeWhile Char.isDigit
  let (fraction, rest) := readFraction (cs.dropWhile Char.isDigit)
  nearest ((whole ++ fraction).dropWhile (· == '0')) (readExponent rest - fraction.length)

/-- The number that an unsigned text stands for. -/
def readUnsigned (cs : List Char) : Float :=
  match (String.ofList cs).toLower with
  | "nan" => 0.0 / 0.0
  | "inf" | "infinity" => 1.0 / 0.0
  | _ => readDigits cs

/-- The number that a text stands for. Blanks around it and underscores within it do not count. -/
def read (s : String) : Float :=
  match (Text.trim s.toList).filter (· != '_') with
  | '-' :: cs => -readUnsigned cs
  | '+' :: cs | cs => readUnsigned cs

end Mustache.Decimal
