import Mustache.Value.Operations

/-!
# Tables from pairs

A table can be filled from another table, or from any sequence of pairs. The pairs may be written
as sequences of two items, or as a text of two characters.

## Main definitions

* `Mustache.Value.parts?`, `Mustache.Value.twoParts` — what a value falls into when it is taken
  apart.
* `Mustache.Entries.fill` — a table with the entries that a value offers.
* `Mustache.Entries.ofValue` — the entries that a value offers.
-/

namespace Mustache

/-- What a value falls into when it is taken apart: items, characters, bytes, or keys. -/
def Value.parts? : Value → Option (List Value)
  | .text s => some (s.toList.map fun c => .text (String.singleton c))
  | .bytes bs | .byteArray bs => some (bs.map fun b => .int b.toNat)
  | .list vs | .tuple vs => some vs
  | .range start stop step => some ((rangeItems start stop step).map .int)
  | .dict es => some (es.map Prod.fst)
  | _ => none

/-- The two parts of a value that falls into exactly two. -/
def Value.twoParts (v : Value) : Except Fault (Value × Value) :=
  match v with
  | .range start stop step =>
    if rangeLength start stop step = 2 then .ok (.int start, .int (start + step))
    else .error .wrongValue
  | v =>
    match v.parts? with
    | none => .error .wrongKind
    | some [x, y] => .ok (x, y)
    | some _ => .error .wrongValue

/-- Refuses a range for whose items there is no room. -/
def Value.checkRoom : Value → Except Fault Unit
  | .range start stop step => do
    if roomLimit ≤ (← lengthOfRange start stop step) then throw .outOfMemory
  | _ => .ok ()

/-- The key and the value that an item stands for. -/
def pairOf (item : Value) : Except Fault (Value × Value) := do
  item.checkRoom
  let (k, v) ← item.twoParts
  if k.isKey then pure (k, v) else throw .wrongKind

namespace Entries

/-- The table with the pairs of a list. The pairs in front of one that is not in order are still
added. -/
def addPairs (es : Entries) : List Value → Entries × Option Fault
  | [] => (es, none)
  | item :: items =>
    match pairOf item with
    | .ok (k, v) => addPairs (es.insert k v) items
    | .error e => (es, some e)

/-- The table with the entries that a value offers, and the fault that cut them short. -/
def fill (es : Entries) (v : Value) : Entries × Option Fault :=
  match v with
  | .dict more => (es.insertAll more, none)
  | .range start stop step =>
    (es, if rangeLength start stop step = 0 then none else some .wrongKind)
  | v =>
    match v.parts? with
    | none => (es, some .wrongKind)
    | some items => es.addPairs items

/-- The entries that a value offers. -/
def ofValue (v : Value) : Except Fault Entries :=
  match fill [] v with
  | (es, none) => .ok es
  | (_, some e) => .error e

end Entries

end Mustache
