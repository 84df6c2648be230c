import Mustache.Session.Load
import Mustache.Session.Offer

/-!
# Listing and adding templates

Some loaders can list the names of their templates, and some can take more templates in. A loader
of the user's own does so by members with names of their own, whatever these answer.

## Main definitions

* `Mustache.Loader.list` — the names of the templates of a loader.
* `Mustache.Loader.add`, `Mustache.Loader.addAll` — a loader with more templates in it.
-/

namespace Mustache

namespace Loader

/-- The name of the member by which a loader lists its templates. -/
def listing : String := "list_templates"

/-- The name of the member by which a loader takes a template in. -/
def storing : String := "set_template"

/-- The name of the member by which a loader takes templates in. -/
def filling : String := "set_templates"

mutual

/-- The names of the templates of a loader, sorted, as far as it can list them; the member of a
user's own loader may answer anything. -/
def list (below : Below) : Loader → Action Value
  | table entries => do pure (.list (← liftFault (sortedKeys entries.keys)))
  | files search => do
    let names ← liftFault (search.names (← get).files)
    pure (.list (names.map .text))
  | choice loaders => do
    let names ← namesOfAll below loaders
    let distinct := Entries.keys (Entries.ofList (names.map fun name => (name, .null)))
    pure (.list (← liftFault (sortedKeys distinct)))
  | custom v => v.callMember below listing []
  | _ => throw .noAttribute

/-- The names of those loaders that list them. -/
def namesOfAll (below : Below) : List Loader → Action (List Value)
  | [] => pure []
  | l :: ls => do
    let names ←
      if ← l.lists below then do
        let names ← liftFault (← l.list below).partsOf
        if names.all Value.isKey then pure names else throw .wrongKind
      else pure []
    let others ← namesOfAll below ls
    pure (names ++ others)

/-- Whether a loader can list its templates. -/
def lists (below : Below) : Loader → Action Bool
  | custom v => do pure (← v.member? below listing).isSome
  | verbatim | sealed _ => pure false
  | _ => pure true

end

/-- The loader with one more template, and the answer of the one who has taken it in. -/
def add (below : Below) (l : Loader) (name : String) (source : Value) : Action (Loader × Value) :=
  match l.put? name source, l with
  | some l, _ => pure (l, .null)
  | none, custom v => do pure (l, ← v.callMember below storing [.text name, source])
  | none, _ => throw .noAttribute

/-- The loader with the templates that a value offers, and the answer of the one who has taken them
in, or the fault that has cut them short. -/
def addAll (below : Below) (l : Loader) (templates : Value) :
    Action (Loader × Except Fault Value) := do
  match l with
  | table entries =>
    let (filled, failure) := entries.fill (← templates.asOffer below)
    pure (table filled, match failure with
      | none => .ok .null
      | some e => .error e)
  | custom v => do pure (l, .ok (← v.callMember below filling [templates]))
  | _ => throw .noAttribute

end Loader

end Mustache
