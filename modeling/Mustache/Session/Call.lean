import Mustache.Session.Compile
import Mustache.Value.Operations

/-!
# Calling callables

A callable binds its arguments to its parameters and evaluates its body. The body may look at the
object it belongs to, and it may have text rendered; for both it relies on what lies below, one
level deeper in the nesting of templates and calls.

## Main definitions

* `Mustache.Below` — what can be asked of the next level.
* `Mustache.Body.eval` — the value of a body.
* `Mustache.Callable.invoke` — a call.
* `Mustache.Value.inspect` — the signature that inspection finds.
* `Mustache.Value.call`, `Mustache.Value.callLambda` — calls of values, with exactly the given
  arguments or with as many as are taken.
* `Mustache.Value.memberNamed` — what a name stands for in a value.
-/

namespace Mustache

/-- What can be asked of the next level. -/
structure Below where
  /-- Renders a template with the frames of the session. -/
  render : Template → Action String
  /-- Calls a callable, which may belong to an object. -/
  call : Callable → Option Object → List Value → Action Value

/-- A call in progress. -/
structure Invocation where
  /-- The number of the callable. -/
  id : Nat
  self : Option Object
  args : List Value

/-- The fault that a callable raises by itself. -/
def Raised.fault (kind : Raised) (message : String) : Fault :=
  match kind with
  | custom => .custom message
  | badValue => .wrongValue
  | badKey => .noKey (.text message)
  | badType => .wrongKind
  | badMember => .noAttribute
  | notFound => .notFound (.stated message)

/-- The number of the next count of a callable. -/
def countUp (id : Nat) : Action Nat :=
  modifyGet fun s =>
    let n := (s.tallies.lookup id).getD 0 + 1
    (n, { s with tallies := (id, n) :: s.tallies.filter fun t => t.1 != id })

/-- An attribute of an object. Properties come before attributes of the object itself, and those
before the methods and functions of its class. -/
def Object.member (call : Callable → Option Object → List Value → Action Value) (o : Object)
    (name : String) : Action Value :=
  match o.properties.lookup name with
  | some f => call f (some o) []
  | none =>
    match o.attributes.lookup name with
    | some v => pure v
    | none =>
      match o.methods.lookup name with
      | some f => pure (.method o f)
      | none =>
        match o.statics.lookup name with
        | some f => pure (.function f)
        | none => throw .noAttribute

/-- The text of a value, rendered as a template under the given delimiters. -/
def renderText (below : Below) (text : Value) (delims : Option String) : Action String := do
  let source ← liftFault (text.write {})
  let t ← loadText source delims
  below.render t

/-- What the attribute for rendering of a value makes of a text. -/
def renderThrough (below : Below) (renderer : Value) (text : Action Value) : Action Value := do
  match renderer with
  | .helper _ _ delims =>
    let v ← text
    let out ← renderText below v delims
    pure (.text out)
  | .object o =>
    match ← o.member below.call "render" with
    | .function f =>
      let v ← text
      below.call f none [v]
    | .method self f =>
      let v ← text
      below.call f (some self) [v]
    | _ =>
      let _ ← text
      throw .wrongKind
  | _ => throw .noAttribute

mutual

/-- The value of a body. -/
def Body.eval (below : Below) (inv : Invocation) : Body → Action Value
  | .lit v => pure v
  | .arg i => liftFault (Value.atIndex inv.args i)
  | .argCount => pure (.int inv.args.length)
  | .callCount => do pure (.int (← countUp inv.id))
  | .self name =>
    match inv.self with
    | none => throw .wrongKind
    | some o => o.member below.call name
  | .function f => do pure (.function { f with id := ← freshId })
  | .list items => do pure (.list (← Body.evalAll below inv items))
  | .raise kind message => throw (kind.fault message)
  | .render text => do
    let renderer ← liftFault (Value.atIndex inv.args 1)
    renderThrough below renderer (text.eval below inv)
  | .quote v => do pure (.text (← liftFault (← v.eval below inv).quotedOrFault))
  | .isMissing v => do pure (.bool (← v.eval below inv).isMissing)
  | .join items => do liftFault (Value.join (← Body.evalAll below inv items))
  | .upper v => do liftFault ((← v.eval below inv).onText Text.upper)
  | .lower v => do liftFault ((← v.eval below inv).onText Text.lower)
  | .trim v => do liftFault ((← v.eval below inv).onText Text.trim)
  | .replace v old new => do
    liftFault ((← v.eval below inv).onText (Text.replaceAll old.toList new.toList))
  | .reverse v => do liftFault (← v.eval below inv).reverse
  | .first v => do liftFault (← v.eval below inv).first
  | .length v => do liftFault (← v.eval below inv).length
  | .add v w => do
    let x ← v.eval below inv
    let y ← w.eval below inv
    liftFault (x.add (← freshId) y)
  | .mul v w => do
    let x ← v.eval below inv
    let y ← w.eval below inv
    liftFault (x.mul (← freshId) y)
  | .item v key => do liftFault ((← v.eval below inv).item key)

/-- The values of bodies in order. -/
def Body.evalAll (below : Below) (inv : Invocation) : List Body → Action (List Value)
  | [] => pure []
  | b :: bs => do
    let v ← b.eval below inv
    let vs ← Body.evalAll below inv bs
    pure (v :: vs)

end

/-- The arguments that the body of a callable sees: positions that are left out hold null. -/
def Signature.bind (s : Signature) (args : List Value) : List Value :=
  match s with
  | hidden => args
  | parameters ps => args ++ List.replicate (positions ps - args.length) .null

namespace Callable

/-- Calls a callable with exactly the given arguments. -/
def invoke (below : Below) (f : Callable) (self : Option Object) (args : List Value) :
    Action Value := do
  if !f.signature.accepts args.length then throw .wrongKind
  let bound := f.signature.bind args
  if f.traced then modify fun s => { s with calls := bound :: s.calls }
  f.body.eval below { id := f.id, self, args := bound }

end Callable

namespace Value

/-- The callable that a call of the value runs, with the object that it belongs to. -/
def callee? : Value → Option (Callable × Option Object)
  | function f => some (f, none)
  | method o f => some (f, some o)
  | object o => o.call.map fun f => (f, some o)
  | _ => none

/-- An object of a class without members. -/
def plainObject (id : Nat) (className : String) : Value :=
  object ⟨id, className, [], [], [], [], none, none⟩

/-- Calls a value with exactly the given arguments. A class makes an object, and takes no
arguments for it. -/
def call (below : Below) (v : Value) (args : List Value) : Action Value :=
  match v.callee? with
  | some (f, self) => f.invoke below self args
  | none =>
    match v, args with
    | type _ name, [] => do pure (plainObject (← freshId) name)
    | topType, [] => do pure (plainObject (← freshId) "object")
    | lineage id name, [] => pure (list [type id name, topType])
    | _, _ => throw .wrongKind

/-- The name of the only attribute of classes. -/
def lineageName : String := "mro"

/-- An attribute of a value. Only objects and classes have attributes. -/
def member (below : Below) (v : Value) (name : String) : Action Value :=
  match v with
  | object o => o.member (Callable.invoke below) name
  | type id className =>
    if name = lineageName then pure (lineage id className) else throw .noAttribute
  | _ => throw .noAttribute

/-- An attribute of a value; none if it is not there. -/
def member? (below : Below) (v : Value) (name : String) : Action (Option Value) :=
  attempt .noAttribute (v.member below name)

/-- What a member of a value answers. -/
def callMember (below : Below) (v : Value) (name : String) (args : List Value) : Action Value := do
  let f ← v.member below name
  f.call below args

/-! ### Inspection -/

/-- The signature of what a call of the value runs. Nothing is needed to make an object of a class
or to list the classes above it. -/
def ownSignature : Value → Signature
  | type _ _ | topType | lineage _ _ => .parameters []
  | v => (v.callee?.map fun c => c.1.signature).getD .hidden

/-- The name of the attribute that states a signature. -/
def statedName : String := "__signature__"

/-- The name of the attribute with what an object wraps. -/
def wrappedName : String := "__wrapped__"

/-- What an object wraps, unless it states a signature. -/
def wrapped? (below : Below) (v : Value) : Action (Option Value) := do
  match ← v.member? below wrappedName with
  | none => pure none
  | some _ =>
    match ← v.member? below statedName with
    | some _ => pure none
    | none => do pure (some (← v.member below wrappedName))

/-- The signature of an object that wraps nothing. No value can state one: null leaves the object
its own, and with any other value nothing is found. -/
def statedSignature (below : Below) (v : Value) : Action Signature := do
  match ← v.member? below statedName with
  | none | some null => pure v.ownSignature
  | some _ => pure .hidden

/-- The signature that is found for a value, or for what it wraps, with so many steps from one value
to the next. -/
def signatureWithin (below : Below) : (steps : Nat) → Value → Action Signature
  | steps, object o => do
    match ← (object o).wrapped? below with
    | none => (object o).statedSignature below
    | some w =>
      match steps with
      | 0 => pure .hidden
      | steps + 1 => signatureWithin below steps w
  | _, v => pure v.ownSignature

/-- How many steps are made in search of a signature. -/
def inspectionLimit : Nat := 999

/-- The signature that inspection of a value finds. Nothing is found if the value is unfit for
it. -/
def inspect (below : Below) (v : Value) : Action Signature := do
  pure ((← attempt .unfit (signatureWithin below inspectionLimit v)).getD .hidden)

/-- Calls a lambda with as many leading arguments as it takes. -/
def callLambda (below : Below) (v : Value) (args : List Value) : Action Value := do
  let sig ← v.inspect below
  v.call below (args.take (sig.taken args.length))

/-! ### Members for templates -/

/-- Whether the name is out of reach for templates. -/
def isPrivate (name : String) : Bool := name.startsWith "_"

/-- What a name stands for in a value: the entry of a table, or an attribute of an object or a
class whose name does not start with an underscore. A method that needs no arguments is called. -/
def memberNamed (below : Below) (v : Value) (name : String) : Action Value :=
  match v with
  | dict es => pure ((Entries.find? es name).getD missing)
  | v =>
    if isPrivate name then pure missing
    else do
      match ← v.member? below name with
      | none => pure missing
      | some (method self f) =>
        if f.signature.needsNothing then f.invoke below (some self) [] else pure (method self f)
      | some w => pure w

end Value

end Mustache
