/-!
# Signatures

A signature lists the parameters of a callable. It decides which argument lists can be bound, and
how many leading arguments a callable is given when there are more on offer than it takes.

## Main definitions

* `Mustache.Parameter` — a parameter, with its kind and whether it may be left out.
* `Mustache.Signature` — the parameters, or the lack of an inspectable signature.
* `Mustache.Signature.accepts` — whether a number of positional arguments can be bound.
* `Mustache.Signature.taken` — how many leading arguments are passed.
-/

namespace Mustache

/-- How a parameter is bound. -/
inductive ParameterKind where
  /-- By position only. -/
  | positionalOnly
  /-- By position or by name. -/
  | positional
  /-- To all further positional arguments. -/
  | rest
  /-- By name only. -/
  | keywordOnly
  /-- To all further arguments given by name. -/
  | keywordRest
  deriving DecidableEq, Repr, Inhabited

/-- A parameter of a callable. -/
structure Parameter where
  name : String
  kind : ParameterKind
  /-- Whether it has a default and may be left out. -/
  optional : Bool
  deriving DecidableEq, Repr, Inhabited

namespace Parameter

/-- Whether one positional argument may be bound to the parameter. -/
def takesPosition (p : Parameter) : Bool := p.kind == .positionalOnly || p.kind == .positional

/-- Whether a call without arguments lacks this parameter. -/
def needed (p : Parameter) : Bool :=
  !p.optional && (p.takesPosition || p.kind == .keywordOnly)

end Parameter

/-- What is known of the parameters of a callable. -/
inductive Signature where
  /-- The parameters in order. -/
  | parameters (ps : List Parameter)
  /-- The parameters cannot be inspected, and all positional arguments are taken. -/
  | hidden
  deriving DecidableEq, Repr, Inhabited

namespace Signature

/-- The number of parameters that take one positional argument each. -/
def positions (ps : List Parameter) : Nat := (ps.filter Parameter.takesPosition).length

/-- The number of those that may not be left out. -/
def neededPositions (ps : List Parameter) : Nat :=
  (ps.filter fun p => p.takesPosition && p.needed).length

/-- Whether a parameter takes all further positional arguments. -/
def isVariadic (ps : List Parameter) : Bool := ps.any fun p => p.kind == .rest

/-- Whether `count` positional arguments, and none by name, can be bound. -/
def accepts : Signature → Nat → Bool
  | hidden, _ => true
  | parameters ps, count =>
    neededPositions ps ≤ count && (isVariadic ps || count ≤ positions ps) &&
      !ps.any fun p => p.kind == .keywordOnly && !p.optional

/-- Whether inspection shows that a call without arguments can be bound. -/
def needsNothing : Signature → Bool
  | hidden => false
  | parameters ps => !ps.any Parameter.needed

/-- How many of `offered` leading arguments are passed: as many as there are positions. -/
def taken : Signature → Nat → Nat
  | hidden, offered => offered
  | parameters ps, offered => if isVariadic ps then offered else min (positions ps) offered

end Signature

end Mustache
