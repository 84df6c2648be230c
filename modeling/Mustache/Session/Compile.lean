import Mustache.Session
import Mustache.Tree.Build

/-!
# Compiling templates

A source is parsed into a tree, and the tree makes a template under the configuration of the
engine. The text that a lambda returns is compiled in the same way, and kept among the recently
used ones.

## Main definitions

* `Mustache.parseSource` — the tree of a source.
* `Mustache.makeTemplate` — a template for a tree.
* `Mustache.textFor`, `Mustache.loadText` — the template for a text from a lambda.
-/

namespace Mustache

/-- The fault for a source without a tree. -/
def ParseFailure.fault : ParseFailure → Fault
  | malformed e => .malformed e
  | notTwoWords _ => .wrongValue

/-- The tree of a source. -/
def parseSource (source : String) (name : Value) : Action Tree :=
  match parse source name .usual with
  | .ok tree => pure tree
  | .error e => throw e.fault

/-- A template for a tree under the configuration of the engine. The tree may have to be made up
first. -/
def makeTemplate (e : Engine) (source className : String) (name : Value) (tree : Action Tree) :
    Action Template := do
  let fields : Fields := [("class_name", .text className)]
  logEvent e.logger .info "Compiling template to \"%(class_name)s\"" fields
  let tree ← tree
  logEvent e.logger .debug "Instantiating template: \"%(class_name)s\"" fields
  pure
    { id := ← freshTemplateId, engine := e.id, name, className, source, tree
      escaping := e.escaping }

/-- The text of a lambda, behind the tag that brings the delimiters of the calling template into
effect. -/
def lambdaSource (text : String) (delims : Option String) : String :=
  match delims with
  | none => text
  | some tag => tag ++ "\n" ++ text

/-- The template for a text from a lambda that is asked for under a key. One that a loader has
brought in will do. -/
def textFor (e : Engine) (source key : String) : Action Template :=
  match e.templates.lookup key with
  | some t => pure t
  | none =>
    match e.lambdas.lookup key with
    | some t => do
      modifyEngine fun e => { e with lambdas := Recent.touch e.lambdas key }
      pure t
    | none => do
      let tree ← parseSource source .null
      let t ← makeTemplate e source key .null (pure tree)
      modifyEngine fun e => { e with lambdas := Recent.insert e.lambdaCapacity e.lambdas key t }
      pure t

/-- The template for a text from a lambda. -/
def loadText (text : String) (delims : Option String) : Action Template := do
  let e ← theEngine
  let source := lambdaSource text delims
  let key ← askFor e source
  textFor e source key

end Mustache
