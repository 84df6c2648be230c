import Mustache.Decimal.Shortest
import Mustache.Value.Kind

/-!
# Keys of tables

Values serve as keys of tables if they cannot change. Two numbers are the same key if they are
equal as numbers, whatever their kind; a true value is one and a false value is zero. Classes,
functions and objects are the same key as themselves only; methods are if they are the same one of
the same object; trees are if they have equal nodes.

## Main definitions

* `Mustache.Value.isKey` — whether a value can be a key.
* `Mustache.Value.sameKey` — whether two values are the same key.
* `Mustache.Entries.get?`, `Mustache.Entries.insert`, `Mustache.Entries.erase` — tables in the
  order of insertion.
-/

namespace Mustache

/-- The integer that a floating-point number equals, if there is one. -/
def integerOf? (x : Float) : Option Int :=
  match Decimal.Binary.ofFloat? x with
  | none => none
  | some b =>
    let signed (n : Nat) : Int := if Decimal.isNegative x then -n else n
    match b.exponent with
    | .ofNat k => some (signed (b.significand <<< k))
    | .negSucc k =>
      let unit := 1 <<< (k + 1)
      if b.significand % unit = 0 then some (signed (b.significand / unit)) else none

namespace Value

/-- The integer that a number or a truth value equals. -/
def integer? : Value → Option Int
  | int n => some n
  | bool b => some (if b then 1 else 0)
  | float x _ => integerOf? x
  | _ => none

/-- Whether two ranges have the same items. -/
def sameRange (a b c a' b' c' : Int) : Bool :=
  let n := rangeLength a b c
  n == rangeLength a' b' c' && (n == 0 || (a == a' && (n == 1 || c == c')))

mutual

/-- Whether the value can be a key: lists, tables and mutable bytes cannot. -/
def isKey : Value → Bool
  | list _ | dict _ | byteArray _ => false
  | tuple vs => areKeys vs
  | _ => true

/-- Whether all items can be keys. -/
def areKeys : List Value → Bool
  | [] => true
  | v :: vs => v.isKey && areKeys vs

end

mutual

/-- Whether two values are the same key. -/
def sameKey : Value → Value → Bool
  | missing, missing | null, null => true
  | text s, text t => s == t
  | bytes bs, bytes cs => bs == cs
  | tuple vs, tuple ws => sameKeys vs ws
  | range a b c, range a' b' c' => sameRange a b c a' b' c'
  | float x i, float y j => x == y || (x != x && y != y && i == j)
  | topType, topType => true
  | type i _, type j _ | lineage i _, lineage j _ => i == j
  | function f, function g => f.id == g.id
  | method o f, method o' g => o.id == o'.id && f.id == g.id
  | object o, object o' => o.id == o'.id
  | helper i _ _, helper j _ _ => i == j
  | tree t, tree u => t.same u
  | v, w =>
    match v.integer?, w.integer? with
    | some m, some n => m == n
    | _, _ => false

/-- Whether the items are the same keys, one by one. -/
def sameKeys : List Value → List Value → Bool
  | [], [] => true
  | v :: vs, w :: ws => v.sameKey w && sameKeys vs ws
  | _, _ => false

end

end Value

namespace Entries

/-- The value under a key. -/
def get? : Entries → Value → Option Value
  | [], _ => none
  | (k, v) :: es, key => if k.sameKey key then some v else get? es key

/-- Whether there is a value under the key. -/
def has (es : Entries) (key : Value) : Bool := (es.get? key).isSome

/-- The table with a value under a key: in the place of the old value, or at the end. -/
def insert : Entries → Value → Value → Entries
  | [], key, value => [(key, value)]
  | (k, v) :: es, key, value =>
    if k.sameKey key then (k, value) :: es else (k, v) :: insert es key value

/-- The table without a key. -/
def erase : Entries → Value → Entries
  | [], _ => []
  | (k, v) :: es, key => if k.sameKey key then es else (k, v) :: erase es key

/-- The table with further entries, added in order. -/
def insertAll (es more : Entries) : Entries := more.foldl (fun acc e => acc.insert e.1 e.2) es

/-- The table of a list of entries. -/
def ofList (es : List (Value × Value)) : Entries := insertAll [] es

/-- The value under a text. -/
def find? (es : Entries) (name : String) : Option Value := es.get? (.text name)

/-- The keys in order. -/
def keys (es : Entries) : List Value := es.map Prod.fst

end Entries

end Mustache
