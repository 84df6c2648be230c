import Mustache.Session.Call
import Mustache.Value.Pairs

/-!
# Trees that objects describe

A cache of the user's own may answer any value where a tree is expected. An object will do if it
has the members of a tree: a body that falls into objects, each of which has the name of a kind of
node for its class, and the members of such a node. What a node lacks, or has of the wrong kind,
shows only when it is rendered, except for what has to be known of it beforehand.

## Main definitions

* `Mustache.Described.tree` — the tree that a value describes.
* `Mustache.treeOf` — the tree that a value is or describes.
-/

namespace Mustache

namespace Described

/-! ## Members of nodes -/

/-- A name, or why it cannot be looked up. -/
def name : Value → Except Flaw String
  | .text s => .ok s
  | .bytes _ | .byteArray _ => .error .wrongKind
  | _ => .error .lacking

/-- The names of filters into which a value falls, or why they cannot be looked up. -/
def filters (v : Value) : Except Fault (Except Flaw (List String)) := do
  if ← v.vacant then pure (.ok [])
  else
    match v with
    | .range _ _ _ => pure (.error .lacking)
    | v =>
      match v.parts? with
      | none => pure (.error .wrongKind)
      | some parts => pure (parts.mapM name)

/-- A line or a column. -/
def number (v : Option Value) : Except Flaw Nat :=
  match v with
  | none => .error .lacking
  | some .null => .ok 0
  | some v =>
    match v.whole? with
    | some n => .ok n.toNat
    | none => .error .wrongKind

/-- An offset into a source of the given length, counted from the end if negative. Null stands for
the usual offset. -/
def offset (length usual : Nat) : Value → Except Fault Nat
  | .null => .ok usual
  | v =>
    match v.whole? with
    | some n => .ok (if n < 0 then (n + length).toNat else n.toNat)
    | none => .error .wrongKind

/-- A text, nothing for what counts as empty. -/
def textOrNothing (v : Value) : Except Fault (Except Flaw String) := do
  if ← v.vacant then pure (.ok "")
  else
    match v with
    | .text s => pure (.ok s)
    | _ => pure (.error .wrongKind)

/-- The node that can be made, or one with the flaw that stands in its way. -/
def orFlawed : Except Flaw Node → Node
  | .ok node => node
  | .error flaw => .flawed flaw

/-- The delimiters that an object holds. -/
def delims (below : Below) (v : Value) : Action Delimiters := do
  let opening ← liftFault (← v.member below "otag").plainOrFault
  let closing ← liftFault (← v.member below "ctag").plainOrFault
  pure ⟨opening, closing⟩

/-- The line and the column that an object holds. A column that is not there counts as zero. -/
def place (below : Below) (v : Value) : Action (Except Flaw Place) := do
  let line := number (← v.member? below "lineno")
  let column := number (← v.member? below "col_offset")
  pure (line.map fun line => ⟨line, column.toOption.getD 0⟩)

/-! ## Nodes -/

/-- Literal text; there is no node for what counts as empty. -/
def literal (below : Below) (v : Value) : Action (Option Node) := do
  let value ← v.member below "value"
  if ← liftFault value.vacant then pure none
  else
    match value with
    | .text s => pure (some (.text ⟨0, 0⟩ s))
    | _ => pure (some (.flawed .notText))

/-- An interpolation. -/
def interpolation (below : Below) (v : Value) : Action Node := do
  let name := name (← v.member below "name")
  let filters ← liftFault (filters (← v.member below "filters"))
  let escaped := !(← liftFault (← v.member below "escape").vacant)
  let delims ← delims below v
  let place ← place below v
  pure (orFlawed do
    pure (.interpolation (← place) (← name) escaped (← filters) delims))

/-- A section with the given nodes in it, for a source of the given length. -/
def block (below : Below) (length : Nat) (v : Value) (body : List Node) : Action Node := do
  let name := name (← v.member below "name")
  let filters ← liftFault (filters (← v.member below "filters"))
  let inverted := !(← liftFault (← v.member below "inverted").vacant)
  let place := (← place below v).toOption.getD ⟨0, 0⟩
  let (start, stop, delims) ←
    if inverted then pure (0, 0, Delimiters.usual)
    else do
      let start ← v.member below "start"
      let stop ← v.member below "end"
      pure (← liftFault (offset length 0 start), ← liftFault (offset length length stop),
        ← delims below v)
  pure (orFlawed do
    pure (.block
      { place, name := ← name, inverted, filters := ← filters, start, stop, delims } body))

/-- The place for another template. -/
def inclusion (below : Below) (v : Value) : Action Node := do
  let name ← v.member below "name"
  let indent ← liftFault (textOrNothing (← v.member below "indent"))
  match name, indent with
  | .text name, .ok indent => pure (.inclusion ⟨0, 0⟩ name indent)
  | _, _ => pure (.flawed .wrongKind)

/-- The objects into which the body of an object falls. -/
def parts (below : Below) (v : Value) : Action (List Value) := do
  match ← v.member below "body" with
  | .range start stop step =>
    if rangeLength start stop step = 0 then pure [] else throw (.noKey (.text "int"))
  | body =>
    match body.parts? with
    | some parts => pure parts
    | none => throw .wrongKind

/-- The nodes that the body of an object describes, for a source of the given length. The fuel
bounds how deeply sections are nested. -/
def nodes (below : Below) (length : Nat) : (fuel : Nat) → Value → Action (List Node)
  | 0, _ => throw .tooDeep
  | fuel + 1, v => do
    let described ← (← parts below v).mapM fun part =>
      match part.typeName with
      | "Text" => literal below part
      | "Variable" => do pure (some (← interpolation below part))
      | "Section" => do
        let body ← nodes below length fuel part
        pure (some (← block below length part body))
      | "Partial" => do pure (some (← inclusion below part))
      | "Comment" | "SetDelimiter" | "Pragma" => pure none
      | kind => throw (.noKey (.text kind))
    pure (described.filterMap id)

/-- How deeply sections can be nested. -/
def depthLimit : Nat := 1000

/-- The tree that a value describes, for a source of the given length. -/
def tree (below : Below) (length : Nat) (v : Value) : Action Tree := do
  pure { body := ← nodes below length depthLimit v, pragmas := [] }

end Described

/-- The tree that a value is or describes. -/
def treeOf (below : Below) (source : String) : Value → Action Tree
  | .tree t => pure t
  | v => Described.tree below source.length v

end Mustache
