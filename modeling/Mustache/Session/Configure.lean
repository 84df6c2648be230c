import Mustache.Options
import Mustache.Session.Listing

/-!
# Configuring engines

A new engine checks its options in a fixed order and fails at the first that it refuses. Most
options can also be changed later; a change that is refused leaves the engine as it was.

## Main definitions

* `Mustache.Options.toEngine` — a new engine.
* `Mustache.setLogger`, `Mustache.setLoader`, `Mustache.setPartialsLoader`,
  `Mustache.setPartials`, `Mustache.setHelpers` — changes of options.
* `Mustache.changeHelpers` — a change of single helpers.
-/

namespace Mustache

/-! ## Offers with members -/

/-- Whether a value has a member that can be called. -/
def hasCallable (below : Below) (v : Value) (name : String) : Action Bool := do
  match ← v.member? below name with
  | some w => pure w.isCallable
  | none => pure false

/-- A loader that has what it needs to load. -/
def checkLoader (below : Below) (option : String) (l : Loader) : Action Loader := do
  match l with
  | .custom v =>
    if ← hasCallable below v Loader.loading then pure l
    else throw (.badOption (.notALoader option v.typeName))
  | l => pure l

/-- The cache that is offered, and whether the engine has made it. -/
def checkCache (below : Below) (fileMode : Value) (logger : Logger) (o : CacheOption) :
    Action (Cache × Bool) := do
  match o with
  | .ready c => pure (c, false)
  | .within location => madeCache location
  | .value .null => pure (.disabled, false)
  | .value (.text path) => madeCache (.elsewhere path)
  | .value v =>
    if ← hasCallable below v "load" then
      if ← hasCallable below v "dump" then return (.custom v, false)
    throw (notACache v)
where
  /-- The cache that the engine makes for a directory. -/
  madeCache (location : Location) : Action (Cache × Bool) :=
    pure (.directory (.make location fileMode logger), true)

/-- Stores partials in the loader of a configuration. What is stored before a fault stays. -/
def storePartials (below : Below) (l : Loader) (partials : Value) :
    Action (Loader × Option Fault) := do
  let refused : Fault := .badOption (.fixedPartials l.typeName)
  match l with
  | .table entries =>
    let (filled, failure) := entries.fill (← partials.asOffer below)
    pure (.table filled, failure)
  | .custom v =>
    match ← v.member? below Loader.filling with
    | none => throw refused
    | some f =>
      if !f.isCallable then throw refused
      let _ ← f.call below [partials]
      pure (l, none)
  | _ => throw refused

/-! ## New engines -/

/-- The loader that is offered, or another one if none is. -/
def loaderOr (below : Below) (option : String) (l usual : Loader) : Action Loader :=
  if l.isAbsent then pure usual else checkLoader below option l

/-- A loader with the partials that are offered. -/
def withPartials (below : Below) (l : Loader) (partials : Value) : Action Loader := do
  if partials.isNull then pure l
  else
    match ← storePartials below l partials with
    | (l, none) => pure l
    | (_, some e) => throw e

/-- A new engine. -/
def Options.toEngine (below : Below) (o : Options) : Action Engine := do
  let logger ← if o.logger.isAbsent then pure Logger.own else liftFault o.logger.check
  let escape ← liftFault (checkEscape o.escape)
  let charset ← liftFault (checkCharset o.charset)
  let (cache, ownsCache) ← checkCache below o.cacheFileMode logger o.cache
  let loader ← loaderOr below "loader" o.loader .verbatim
  let partialsLoader ← loaderOr below "partials_loader" o.partialsLoader (.table [])
  let partialsLoader ← withPartials below partialsLoader o.partials
  let helpers ← if o.helpers.isNull then pure Helpers.empty else liftFault (checkHelpers o.helpers)
  pure
    { id := ← freshId, classPrefix := o.classPrefix, autoescape := o.autoescape, escape, charset
      cacheFileMode := o.cacheFileMode, cache, ownsCache, loader, partialsLoader, helpers, logger
      lambdaCapacity := o.lambdaCapacity, templates := [], lambdas := [] }

/-- A new engine in place of the one that the session has. -/
def startEngine (below : Below) (o : Options) : Action Unit := do
  let e ← o.toEngine below
  modify fun s => { s with engine := some e }

/-! ## Changes -/

/-- Sets the logger, also for a cache that the engine has made. -/
def setLogger (o : LoggerOption) : Action Unit := do
  let logger ← liftFault o.check
  modifyEngine fun e =>
    { e with logger, cache := if e.ownsCache then e.cache.withLogger (some logger) else e.cache }

/-- Sets the loader. -/
def setLoader (below : Below) (l : Loader) : Action Unit := do
  let loader ← checkLoader below "loader" l
  modifyEngine fun e => { e with loader }

/-- Sets the loader for partials. -/
def setPartialsLoader (below : Below) (l : Loader) : Action Unit := do
  let partialsLoader ← checkLoader below "partials_loader" l
  modifyEngine fun e => { e with partialsLoader }

/-- Stores partials in the loader for partials. -/
def setPartials (below : Below) (partials : Value) : Action Unit := do
  let (partialsLoader, failure) ← storePartials below (← theEngine).partialsLoader partials
  modifyEngine fun e => { e with partialsLoader }
  match failure with
  | none => pure ()
  | some e => throw e

/-- Replaces all helpers. -/
def setHelpers (v : Value) : Action Unit := do
  let helpers ← liftFault (checkHelpers v)
  modifyEngine fun e => { e with helpers }

/-- Changes the helpers. -/
def changeHelpers (f : Helpers → Except Fault Helpers) : Action Unit := do
  let helpers ← liftFault (f (← theEngine).helpers)
  modifyEngine fun e => { e with helpers }

/-- Drops the compiled templates. -/
def forgetTemplates : Action Unit := modifyEngine Engine.forget

end Mustache
