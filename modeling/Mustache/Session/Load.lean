import Mustache.Session.Described
import Mustache.Session.Storage

/-!
# Loading templates

A template is loaded through a loader, looked for among the compiled ones, then in the persistent
cache, and parsed only if it is found in neither.

## Main definitions

* `Mustache.Loader.find` — what a loader finds under a name.
* `Mustache.templateFor`, `Mustache.loadSource` — the template for a source.
* `Mustache.loadTemplate`, `Mustache.loadPartial?` — templates by name.
-/

namespace Mustache

/-! ## Sources -/

/-- A source and its origin, as a member of the user's own answers them: two items. -/
def foundIn (v : Value) : Except Fault Found :=
  match v.parts? with
  | none => .error .wrongKind
  | some [source, origin] => .ok ⟨source, origin⟩
  | some _ => .error .wrongValue

/-- The entry of a table that cannot be changed. -/
def findSealed (entries : List (String × Value × Value)) (name : String) : Except Fault Found :=
  match entries.lookup name with
  | some (source, origin) => .ok ⟨source, origin⟩
  | none => .error (.notFound (.stated ("no " ++ name)))

mutual

/-- What a loader finds under a name. -/
def Loader.find (below : Below) (name : String) : Loader → Action Found
  | .verbatim => pure ⟨.text name, .text "<string>"⟩
  | .table entries => liftFault (findInTable entries name)
  | .files search => do liftFault (search.find (← get).files name)
  | .choice loaders => do
    match ← findFirst below name loaders with
    | some found => pure found
    | none => throw (.notFound (.nowhere name loaders.length))
  | .sealed entries => liftFault (findSealed entries name)
  | .custom v => do
    let f ← v.member below "get_source"
    let answer ← f.call below [.text name]
    liftFault (foundIn answer)

/-- What the first of the loaders finds that finds anything. -/
def findFirst (below : Below) (name : String) : List Loader → Action (Option Found)
  | [] => pure none
  | l :: ls => do
    match ← attempt .notFound (l.find below name) with
    | some found => pure (some found)
    | none => findFirst below name ls

end

/-- The name under which a template is known: its origin if it has one, else its name. -/
def knownAs (origin : Value) (name : String) : Except Fault Value := do
  if ← origin.vacant then pure (.text name) else pure origin

/-- The fault of a source that is not text. -/
def notASource : Value → Fault
  | .list _ | .tuple _ | .dict _ | .range _ _ _ => .noAttribute
  | _ => .wrongKind

/-! ## Templates -/

/-- The tree for a source from the persistent cache, or else parsed and stored there. What a cache
of the user's own has answered may be any value. -/
def treeFor (below : Below) (e : Engine) (source : Value) (className : String) (name : Value) :
    Action Value := do
  let fields : Fields := [("class_name", .text className)]
  let parsed : Action Tree :=
    match source with
    | .text s => parseSource s name
    | v => throw (notASource v)
  match e.cache with
  | .disabled =>
    logEvent e.logger .debug "Template cache disabled, parsing \"%(class_name)s\" at runtime" fields
    let tree ← parsed
    pure (.tree tree)
  | cache =>
    match ← cache.load below className with
    | .null =>
      logEvent e.logger .debug "Template cache miss for \"%(class_name)s\"" fields
      let tree ← parsed
      let cache' ← cache.dump below className tree
      modifyEngine fun e => { e with cache := cache' }
      pure (.tree tree)
    | v => pure v

/-- The template for a source that is asked for under a key, given what the source is as text. -/
def templateFor (below : Below) (e : Engine) (source : Value) (text key : String) (name : Value) :
    Action Template :=
  match e.templates.lookup key with
  | some t => pure t
  | none => do
    let found ← treeFor below e source key name
    let t ← makeTemplate e text key name (treeOf below text found)
    modifyEngine fun e => { e with templates := e.templates ++ [(key, t)] }
    pure t

/-- The template for a source that a loader has found. -/
def loadSource (below : Below) (source : Value) (name : Value) : Action Template := do
  let e ← theEngine
  let text ← liftFault source.plainOrFault
  let key ← askFor e text
  templateFor below e source text key name

/-- The template that the loader of the engine finds under a name. -/
def loadTemplate (below : Below) (name : String) : Action Template := do
  let e ← theEngine
  let found ← e.loader.find below name
  loadSource below found.source (← liftFault (knownAs found.origin name))

/-- The template for what a loader has found, or not, under the name of a partial. A missing one is
reported, and is no fault. -/
def partialFor (below : Below) (logger : Logger) (name : String) :
    Option Found → Action (Option Template)
  | none => do
    logEvent logger .warning "Partial not found: \"%(name)s\"" [("name", .text name)]
    pure none
  | some found => do
    pure (some (← loadSource below found.source (← liftFault (knownAs found.origin name))))

/-- The template to be included under a name. -/
def loadPartial? (below : Below) (name : String) : Action (Option Template) := do
  let e ← theEngine
  let found ← attempt .notFound (e.partialsLoader.find below name)
  partialFor below e.logger name found

end Mustache
