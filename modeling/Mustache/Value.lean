import Mustache.Signature
import Mustache.Tree

/-!
# Values

The data that templates are filled with is dynamic: scalars, text, sequences, tables, objects with
attributes and accessors, and callables. The kinds form a closed set.

## Main definitions

* `Mustache.Value` — a value of any kind.
* `Mustache.Callable` — a function with its signature and its body.
* `Mustache.Object` — an object with attributes, methods, properties and plain functions.
* `Mustache.Body` — what a callable computes, in a small language of expressions.
-/

namespace Mustache

/-- The kinds of failure that a callable may raise by itself. -/
inductive Raised where
  | custom
  | badValue
  | badKey
  | badType
  | badMember
  | notFound
  deriving DecidableEq, Repr, Inhabited

mutual

/-- A value of any kind. -/
inductive Value where
  /-- The answer of a look-up that finds nothing. -/
  | missing
  /-- The null value. -/
  | null
  | bool (b : Bool)
  | int (n : Int)
  /-- A floating-point number. What is no number equals nothing but itself, so that `id` tells it
  from every other. -/
  | float (x : Float) (id : Nat)
  | text (s : String)
  /-- Immutable bytes. -/
  | bytes (bs : List UInt8)
  /-- Mutable bytes. -/
  | byteArray (bs : List UInt8)
  | list (items : List Value)
  /-- An immutable list. -/
  | tuple (items : List Value)
  /-- The integers from `start` up to `stop`, that excluded, in steps of `step`. -/
  | range (start stop step : Int)
  /-- A table in the order of insertion. -/
  | dict (entries : List (Value × Value))
  /-- A class, which `id` tells from every other. -/
  | type (id : Nat) (name : String)
  /-- The class above all classes. -/
  | topType
  /-- The function of a class that lists the class and those above it. -/
  | lineage (id : Nat) (name : String)
  | function (f : Callable)
  /-- A method together with its object. -/
  | method (self : Object) (f : Callable)
  | object (o : Object)
  /-- The means to render text that a lambda is given, which `id` tells from every other. -/
  | helper (id depth : Nat) (delims : Option String)
  /-- A parsed template. -/
  | tree (t : Tree)

/-- A function. -/
structure Callable where
  /-- Tells the function from every other. -/
  id : Nat
  signature : Signature
  body : Body
  /-- Whether the arguments of each call are noted down. -/
  traced : Bool

/-- An object of a class. -/
structure Object where
  /-- Tells the object from every other. -/
  id : Nat
  className : String
  /-- The attributes of the object itself. -/
  attributes : List (String × Value)
  /-- The methods of its class. -/
  methods : List (String × Callable)
  /-- The plain functions of its class. -/
  statics : List (String × Callable)
  /-- The attributes that are computed on access. -/
  properties : List (String × Callable)
  /-- The text of the object, if its class defines one. -/
  shown : Option String
  /-- What a call of the object runs. -/
  call : Option Callable

/-- What a callable computes from its arguments. -/
inductive Body where
  /-- A fixed value. -/
  | lit (v : Value)
  /-- An argument, counted from zero, or from the last one if negative. -/
  | arg (i : Int)
  /-- The number of arguments. -/
  | argCount
  /-- How often the callable has been called. -/
  | callCount
  /-- A member of the object whose method or property is running. -/
  | self (name : String)
  /-- A new function. -/
  | function (f : Callable)
  /-- A list. -/
  | list (items : List Body)
  /-- A failure with a message. -/
  | raise (kind : Raised) (message : String)
  /-- Text rendered by the second argument. -/
  | render (text : Body)
  /-- The quoted form of a value. -/
  | quote (v : Body)
  /-- Whether the value is missing. -/
  | isMissing (v : Body)
  /-- Texts and integers, joined. -/
  | join (items : List Body)
  | upper (v : Body)
  | lower (v : Body)
  /-- The text without its blank ends. -/
  | trim (v : Body)
  /-- Every occurrence of a text replaced. -/
  | replace (v : Body) (old new : String)
  | reverse (v : Body)
  /-- The first item, null for what counts as empty. -/
  | first (v : Body)
  | length (v : Body)
  | add (v w : Body)
  | mul (v w : Body)
  /-- The item at an index or under a key. -/
  | item (v : Body) (key : Value)

end

instance : Inhabited Value := ⟨.missing⟩

/-- A table in the order of insertion. -/
abbrev Entries := List (Value × Value)

end Mustache
