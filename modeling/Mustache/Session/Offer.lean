import Mustache.Session.Call
import Mustache.Value.Pairs

/-!
# What objects offer to tables

A table can be filled from an object that has a member which lists its keys. Since objects have no
items that go with keys, the list has to be empty.

## Main definitions

* `Mustache.Value.asOffer` — what a value offers to a table.
* `Mustache.Value.partsOf` — what an answer falls into.
-/

namespace Mustache.Value

/-- The name of the member that lists keys. -/
def keysName : String := "keys"

/-- Whether a value falls into no parts; `none` if it does not fall into parts. -/
def isBarren? : Value → Option Bool
  | range start stop step => some (rangeLength start stop step == 0)
  | v => v.parts?.map List.isEmpty

/-- What a value offers to a table: an object whose member lists no keys offers the empty table,
and every other value stands for itself. -/
def asOffer (below : Below) (v : Value) : Action Value := do
  match v with
  | object _ =>
    match ← v.member? below keysName with
    | none => pure v
    | some _ =>
      let f ← v.member below keysName
      let keys ← f.call below []
      liftFault keys.checkRoom
      match keys.isBarren? with
      | some true => pure (dict [])
      | _ => throw .wrongKind
  | v => pure v

/-- What a value falls into. -/
def partsOf (v : Value) : Except Fault (List Value) := do
  v.checkRoom
  match v.parts? with
  | some parts => pure parts
  | none => throw .wrongKind

end Mustache.Value
