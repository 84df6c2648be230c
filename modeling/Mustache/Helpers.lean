import Mustache.Value.Order
import Mustache.Value.Pairs

/-!
# Helpers

Helpers are named values that every template can use. They form a table in the order of insertion.
A change makes a new table, so that a table which has been handed out stays as it was.

## Main definitions

* `Mustache.Helpers` — a collection of helpers.
* `Mustache.Helpers.update` — a collection with the entries that a value offers.
* `Mustache.Helpers.summary` — a short rendition of a collection.
-/

namespace Mustache

/-- A collection of helpers. -/
structure Helpers where
  entries : Entries
  deriving Inhabited

namespace Helpers

/-- No helpers. -/
def empty : Helpers := ⟨[]⟩

/-- The number of helpers. -/
def size (h : Helpers) : Nat := h.entries.length

/-- The collection with a helper. -/
def add (h : Helpers) (name value : Value) : Except Fault Helpers :=
  if name.isKey then .ok ⟨h.entries.insert name value⟩ else .error .wrongKind

/-- The collection with more helpers. If one of them is not in order, none is added. -/
def update (h : Helpers) (more : Value) : Except Fault Helpers :=
  match h.entries.fill more with
  | (es, none) => .ok ⟨es⟩
  | (_, some e) => .error e

/-- The helper with a name. -/
def get (h : Helpers) (name : Value) : Except Fault Value :=
  if !name.isKey then .error .wrongKind
  else
    match h.entries.get? name with
    | some v => .ok v
    | none => .error (.noKey name)

/-- The helper with a name, or another value. -/
def getD (h : Helpers) (name default : Value) : Except Fault Value :=
  if name.isKey then .ok ((h.entries.get? name).getD default) else .error .wrongKind

/-- Whether there is a helper with the name. -/
def has (h : Helpers) (name : Value) : Except Fault Bool :=
  if name.isKey then .ok (h.entries.has name) else .error .wrongKind

/-- The collection without a helper. -/
def remove (h : Helpers) (name : Value) : Except Fault Helpers :=
  match h.get name with
  | .ok _ => .ok ⟨h.entries.erase name⟩
  | .error e => .error e

/-- A short rendition of the collection, which shows the names in their order. -/
def summary (h : Helpers) : Except Fault String :=
  match Value.sorted? h.entries.keys with
  | some names =>
    (Value.list names).quotedOrFault.map fun s => "<HelperCollection " ++ s ++ ">"
  | none => .error .wrongKind

end Helpers

end Mustache
