import Mustache.Decimal.Notation
import Mustache.Text.Quoted
import Mustache.Value.Kind

/-!
# The printed form of values

A value has a plain text, which a template writes, and a quoted form, which error messages show.
The two differ for text and for objects with a text of their own. An integer with too many digits
has neither.

## Main definitions

* `Mustache.Value.quoted` — the quoted form.
* `Mustache.Value.plain` — the plain text.
* `Mustache.Value.isUnwritable` — whether a value holds an integer with too many digits.
-/

namespace Mustache

/-- The rendition of a stack of frames. -/
def contextSummary (depth : Nat) : String := "<Context depth=" ++ toString depth ++ ">"

/-- The rendition of the means to render text that a lambda is given. -/
def helperSummary (depth : Nat) : String := "<LambdaHelper " ++ contextSummary depth ++ ">"

/-- The rendition of a truth value. -/
def boolWord (b : Bool) : String := if b then "True" else "False"

/-- The rendition of a range. A step of one is left out. -/
def rangeText (start stop step : Int) : String :=
  "range(" ++ toString start ++ ", " ++ toString stop ++
    (if step == 1 then "" else ", " ++ toString step) ++ ")"

/-- The rendition of a tuple, given those of its items. A single item is followed by a comma. -/
def tupleText : List String → String
  | [item] => "(" ++ item ++ ",)"
  | items => "(" ++ ", ".intercalate items ++ ")"

namespace Value

mutual

/-- The quoted form of a value. -/
def quoted : Value → String
  | missing => "MISSING"
  | null => "None"
  | bool b => boolWord b
  | int n => toString n
  | float x _ => Decimal.written x
  | text s => Text.quoted s
  | bytes bs => Text.quotedBytes bs
  | byteArray bs => Text.quotedByteArray bs
  | list vs => "[" ++ ", ".intercalate (quotedItems vs) ++ "]"
  | tuple vs => tupleText (quotedItems vs)
  | range start stop step => rangeText start stop step
  | dict es => "\x7b" ++ ", ".intercalate (quotedEntries es) ++ "\x7d"
  | type _ name => "<class 'data." ++ name ++ "'>"
  | topType => "<class 'object'>"
  | lineage _ _ => "<built-in method mro>"
  | function _ => "<function>"
  | method _ _ => "<bound method>"
  | object o => "<" ++ o.className ++ ">"
  | helper _ depth _ => helperSummary depth
  | tree _ => "<Template>"

/-- The quoted forms of the items. -/
def quotedItems : List Value → List String
  | [] => []
  | v :: vs => v.quoted :: quotedItems vs

/-- The quoted forms of keys and values. -/
def quotedEntries : List (Value × Value) → List String
  | [] => []
  | (k, v) :: es => (k.quoted ++ ": " ++ v.quoted) :: quotedEntries es

end

/-- The plain text of a value. -/
def plain : Value → String
  | text s => s
  | object o => o.shown.getD ("<" ++ o.className ++ ">")
  | v => v.quoted

/-! ## Integers that are too long -/

/-- Integers with more digits are not written. -/
def digitLimit : Nat := 4300

/-- Whether an integer has too many digits to be written. -/
def isTooLong (n : Int) : Bool := Decimal.powerOfTen digitLimit ≤ n.natAbs

mutual

/-- Whether the quoted form of a value would hold an integer that is too long. -/
def isUnwritable : Value → Bool
  | int n => isTooLong n
  | list vs | tuple vs => areUnwritable vs
  | range start stop step => isTooLong start || isTooLong stop || isTooLong step
  | dict es => anyUnwritable es
  | _ => false

/-- Whether one of the items would hold one. -/
def areUnwritable : List Value → Bool
  | [] => false
  | v :: vs => v.isUnwritable || areUnwritable vs

/-- Whether one of the keys or the values would hold one. -/
def anyUnwritable : List (Value × Value) → Bool
  | [] => false
  | (k, v) :: es => k.isUnwritable || v.isUnwritable || anyUnwritable es

end

end Value

end Mustache
