import Mustache.Value

/-!
# Kinds of values

What a template does with a value depends on a few questions about its kind: whether a section
repeats for it, whether it is called, whether a section is shown at all.

## Main definitions

* `Mustache.Value.isSequence` — lists, tuples and ranges.
* `Mustache.Value.isLambda` — what is called in place of being written.
* `Mustache.Value.isTruthy` — whether a section is shown.
* `Mustache.Value.items` — what a section repeats for.
* `Mustache.Value.typeName` — the name of the kind.
-/

namespace Mustache

/-- The number of integers from `start` up to `stop`, that excluded, in steps of `step`. -/
def rangeLength (start stop step : Int) : Nat :=
  if step > 0 then ((stop - start + step - 1) / step).toNat
  else if step < 0 then ((start - stop - step - 1) / (-step)).toNat
  else 0

/-- The integers of a range. -/
def rangeItems (start stop step : Int) : List Int :=
  (List.range (rangeLength start stop step)).map fun (i : Nat) => start + (i : Int) * step

/-- What the number of items of a sequence has to stay below. -/
def sizeLimit : Nat := 1 <<< 63

/-- For how many items there is no room. -/
def roomLimit : Nat := 1 <<< 36

namespace Value

/-- Tables. -/
def isMapping : Value → Bool
  | dict _ => true
  | _ => false

/-- Lists, tuples and ranges; text and bytes are not sequences, though they have items. -/
def isSequence : Value → Bool
  | list _ | tuple _ | range _ _ _ => true
  | _ => false

/-- What can be called. -/
def isCallable : Value → Bool
  | function _ | method _ _ | type _ _ | topType | lineage _ _ => true
  | object o => o.call.isSome
  | _ => false

/-- What is called in place of being written: anything that can be called, classes apart. -/
def isLambda : Value → Bool
  | function _ | method _ _ | lineage _ _ => true
  | object o => o.call.isSome
  | _ => false

/-- Whether a look-up found nothing. -/
def isMissing : Value → Bool
  | missing => true
  | _ => false

/-- Whether a section is shown: not for a missing value, null, false, or empty text, bytes and
sequences. Zero and the empty table count as values. -/
def isTruthy : Value → Bool
  | missing | null | bool false => false
  | text s => s != ""
  | bytes bs | byteArray bs => !bs.isEmpty
  | list vs | tuple vs => !vs.isEmpty
  | range start stop step => rangeLength start stop step != 0
  | _ => true

/-- The items of a sequence, and the value itself otherwise. -/
def items : Value → List Value
  | list vs | tuple vs => vs
  | range start stop step => (rangeItems start stop step).map int
  | v => [v]

/-- Whether the value counts as empty in a condition: besides what hides a section, these are the
number zero and the empty table. -/
def isVacant : Value → Bool
  | int n => n == 0
  | float x _ => x == 0.0
  | dict es => es.isEmpty
  | v => !v.isTruthy

/-- The name of the kind. -/
def typeName : Value → String
  | missing => "_Missing"
  | null => "NoneType"
  | bool _ => "bool"
  | int _ => "int"
  | float _ _ => "float"
  | text _ => "str"
  | bytes _ => "bytes"
  | byteArray _ => "bytearray"
  | list _ => "list"
  | tuple _ => "tuple"
  | range _ _ _ => "range"
  | dict _ => "dict"
  | type _ _ | topType => "type"
  | lineage _ _ => "builtin_function_or_method"
  | function _ => "function"
  | method _ _ => "method"
  | object o => o.className
  | helper _ _ _ => "LambdaHelper"
  | tree _ => "Template"

end Value

end Mustache
