import Mustache.Engine

/-!
# Options of engines

What is offered for an option of an engine may be of any kind; a check either makes it part of a
configuration or refuses it.

## Main definitions

* `Mustache.Options` — what is offered for a new engine.
* `Mustache.LoggerOption`, `Mustache.CacheOption` — what is offered for a logger and for a cache.
* `Mustache.Loader.canLoad` — whether a value passes for a loader at first sight.
-/

namespace Mustache

/-- What is offered for a logger. -/
inductive LoggerOption where
  | logger (l : Logger)
  | value (v : Value)
  deriving Inhabited

/-- What is offered for a cache. -/
inductive CacheOption where
  /-- A cache that is there already. -/
  | ready (c : Cache)
  /-- A directory, for which the engine makes a cache. -/
  | within (location : Location)
  | value (v : Value)
  deriving Inhabited

/-- What is offered for a new engine. Null stands for an option that is left out. -/
structure Options where
  classPrefix : String := Engine.defaultPrefix
  autoescape : Bool := true
  logger : LoggerOption := .value .null
  escape : Value := .null
  charset : String := Engine.defaultCharset
  cacheFileMode : Value := .null
  cache : CacheOption := .value .null
  loader : Loader := .custom .null
  partialsLoader : Loader := .custom .null
  partials : Value := .null
  helpers : Value := .null
  lambdaCapacity : Nat := Engine.defaultLambdaCapacity
  deriving Inhabited

/-- Whether the value is null. -/
def Value.isNull : Value → Bool
  | null => true
  | _ => false

/-! ## Loggers -/

namespace LoggerOption

/-- Whether the option is left out. -/
def isAbsent : LoggerOption → Bool
  | logger _ => false
  | value v => v.isNull

/-- Whether the offer is a logger. -/
def isLogger : LoggerOption → Bool
  | logger _ => true
  | value _ => false

/-- The logger, if the offer is one. -/
def logger? : LoggerOption → Option Logger
  | logger l => some l
  | value _ => none

/-- The logger, or the fault for an offer that is none. -/
def check : LoggerOption → Except Fault Logger
  | logger l => .ok l
  | value v => .error (.badOption (.notALogger v.typeName))

end LoggerOption

/-! ## Escaping -/

/-- The callable that escapes, if one is offered. -/
def checkEscape (v : Value) : Except Fault (Option Value) :=
  if v.isNull then .ok none
  else if v.isCallable then .ok (some v)
  else .error (.badOption .escapeNotCallable)

/-- The name of a charset as it is offered, if there is such a charset. -/
def checkCharset (name : String) : Except Fault String :=
  match Text.Charset.find name with
  | .ok _ => .ok name
  | .error .unknown => .error (.badOption (.unknownCharset name))
  | .error .inadmissible => .error .wrongValue

/-! ## Loaders -/

/-- Whether a value has an attribute of its own or of its class. -/
def Value.offers (v : Value) (name : String) : Bool :=
  match v with
  | object o =>
    (o.methods.lookup name).isSome || (o.statics.lookup name).isSome ||
      (o.properties.lookup name).isSome || ((o.attributes.lookup name).map (!·.isNull)).getD false
  | _ => false

/-- The name of the member by which a loader loads. -/
def Loader.loading : String := "get_source"

/-- Whether a value passes for a loader at first sight. -/
def Loader.canLoad : Loader → Bool
  | custom v => v.offers loading
  | _ => true

/-- Whether the option is left out. -/
def Loader.isAbsent : Loader → Bool
  | custom v => v.isNull
  | _ => false

/-! ## Caches -/

/-- The fault for an offer that is no cache. -/
def notACache (v : Value) : Fault := .badOption (.notACache v.typeName)

/-! ## Helpers -/

/-- The helpers that a value offers; text and immutable bytes offer none. -/
def checkHelpers (v : Value) : Except Fault Helpers :=
  let refused : Fault := .badOption .notHelpers
  match v, Helpers.empty.update v with
  | .text _, _ | .bytes _, _ => .error refused
  | _, .ok h => .ok h
  | _, .error .wrongKind | _, .error .wrongValue => .error refused
  | _, .error e => .error e

end Mustache
