import Mustache.Cache
import Mustache.Digest
import Mustache.Helpers
import Mustache.Loader
import Mustache.Template

/-!
# Engines

An engine holds the configuration under which templates are loaded and rendered, and the templates
that it has compiled. Templates from loaders are kept until they are dropped; of the texts that
lambdas return only the most recently used are kept.

## Main definitions

* `Mustache.Engine` — configuration and compiled templates.
* `Mustache.Engine.className` — the key of a source under the configuration.
* `Mustache.Engine.escaping` — how the values of escaped interpolations are written.
* `Mustache.Recent.touch`, `Mustache.Recent.insert` — templates in the order of use, of which only
  the last ones are kept.

## Implementation notes

A source is a text of Unicode scalar values, so that it always has bytes in UTF-8 and hence a key.
Strings with lone surrogates, which have neither, are left out.
-/

namespace Mustache

/-! ## Recently used templates -/

namespace Recent

/-- The entries with the one under a key moved to the end, the place of the most recent. -/
def touch (entries : List (String × Template)) (key : String) : List (String × Template) :=
  entries.filter (fun e => e.1 != key) ++ entries.filter (fun e => e.1 == key)

/-- The entries with a new one at the end. If there are more than the capacity, the first one
goes. -/
def insert (capacity : Nat) (entries : List (String × Template)) (key : String) (t : Template) :
    List (String × Template) :=
  let entries := entries ++ [(key, t)]
  if entries.length > capacity then entries.tail else entries

end Recent

/-! ## Configuration -/

/-- Configuration and compiled templates. -/
structure Engine where
  /-- Tells the engine from every other. -/
  id : Nat
  /-- What the keys of templates begin with. -/
  classPrefix : String
  autoescape : Bool
  /-- A callable that escapes, in place of the escaping for markup. -/
  escape : Option Value
  charset : String
  /-- The mode of cache files, null if none is given. -/
  cacheFileMode : Value
  cache : Cache
  /-- Whether the cache was made by the engine and follows its logger. -/
  ownsCache : Bool
  loader : Loader
  partialsLoader : Loader
  helpers : Helpers
  logger : Logger
  /-- How many texts from lambdas are kept. -/
  lambdaCapacity : Nat
  /-- The templates from loaders, by key. -/
  templates : List (String × Template)
  /-- The texts from lambdas by key, the most recent last. -/
  lambdas : List (String × Template)
  deriving Inhabited

namespace Engine

/-- What the keys of templates begin with by default. -/
def defaultPrefix : String := "Moustache_Template_"

/-- How many texts from lambdas are kept by default. -/
def defaultLambdaCapacity : Nat := 256

/-- The charset by default. -/
def defaultCharset : String := "UTF-8"

/-- The version that keys of templates carry. -/
def version : String := "2.1.0"

/-- The word for the way of escaping in the keys of templates. -/
def escapeMode (e : Engine) : String :=
  if !e.autoescape then "none" else if e.escape.isSome then "custom" else "default"

/-- The text whose digest makes the key of a source: it tells the configurations apart under
which a source is rendered in different ways. -/
def keyText (e : Engine) (source : String) : String :=
  "version:" ++ version ++ ",escape:" ++ e.escapeMode ++ ",charset:" ++ e.charset ++ ",source:" ++
    source

/-- The key of a source. -/
def className (e : Engine) (source : String) : String :=
  e.classPrefix ++ digest (e.keyText source)

/-- How interpolated values are escaped, given the choices that a compilation makes. -/
def escapingFor (e : Engine) (custom : Bool) (charset : String) (autoescape : Bool) : Escaping :=
  if !autoescape then .off
  else if custom then
    match e.escape with
    | some f => .custom f
    | none => .off
  else .markup charset

/-- How interpolated values are escaped. -/
def escaping (e : Engine) : Escaping := e.escapingFor e.escape.isSome e.charset e.autoescape

/-- A short rendition of the engine. -/
def summary (e : Engine) : String :=
  "<Engine loader=" ++ e.loader.typeName ++ " templates=" ++ toString e.templates.length ++
    " helpers=" ++ toString e.helpers.size ++ ">"

/-- The engine without the templates that it has compiled. -/
def forget (e : Engine) : Engine := { e with templates := [], lambdas := [] }

end Engine

end Mustache
