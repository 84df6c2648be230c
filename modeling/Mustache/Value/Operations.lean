import Mustache.Error
import Mustache.Text.Blank
import Mustache.Text.Case
import Mustache.Value.Key

/-!
# Operations on values

What callables compute with: sums and products, items and lengths, and a few operations on text.
An operation that a kind of value does not support is a fault.

## Main definitions

* `Mustache.Value.add`, `Mustache.Value.mul` — sums and products of numbers and of sequences.
* `Mustache.Value.item` — the item at an index or under a key.
* `Mustache.Value.write` — the text that a template writes for a value.
-/

namespace Mustache.Value

/-! ## Numbers -/

/-- The floating-point number nearest to an integer. -/
def toFloat (n : Int) : Except Fault Float :=
  let x := Float.ofInt n
  if x.isInf then .error .overflow else .ok x

/-- Integers, and truth values as integers. -/
def whole? : Value → Option Int
  | int n => some n
  | bool b => some (if b then 1 else 0)
  | _ => none

/-- Numbers as floating-point numbers. -/
def number? : Value → Option (Except Fault Float)
  | float x _ => some (.ok x)
  | v => v.whole?.map toFloat

/-- An operation on two numbers: on integers if both are, else on floating-point numbers. The
result is told from every other by `id`. -/
def arithmetic? (onInt : Int → Int → Int) (onFloat : Float → Float → Float) (id : Nat)
    (v w : Value) : Option (Except Fault Value) :=
  match v.whole?, w.whole? with
  | some m, some n => some (.ok (int (onInt m n)))
  | _, _ =>
    match v.number?, w.number? with
    | some (.ok x), some (.ok y) => some (.ok (float (onFloat x y) id))
    | some (.error e), some _ | some _, some (.error e) => some (.error e)
    | _, _ => none

/-! ## Sums and products -/

/-- Two numbers added, or two sequences of one kind joined. -/
def add (id : Nat) (v w : Value) : Except Fault Value :=
  match arithmetic? (· + ·) (· + ·) id v w with
  | some r => r
  | none =>
    match v, w with
    | text s, text t => .ok (text (s ++ t))
    | list vs, list ws => .ok (list (vs ++ ws))
    | tuple vs, tuple ws => .ok (tuple (vs ++ ws))
    | bytes bs, bytes cs | bytes bs, byteArray cs => .ok (bytes (bs ++ cs))
    | byteArray bs, byteArray cs | byteArray bs, bytes cs => .ok (byteArray (bs ++ cs))
    | _, _ => .error .wrongKind

/-- A list several times over. The fault is for a result that is too long to have a length. -/
def times {α : Type} (n : Int) (tooLong : Fault) (xs : List α) : Except Fault (List α) :=
  if n < -sizeLimit ∨ sizeLimit ≤ n then .error .overflow
  else
    let size := n.toNat * xs.length
    if sizeLimit ≤ size then .error tooLong
    else if roomLimit ≤ size then .error .outOfMemory
    else if size = 0 then .ok []
    else .ok (List.replicate n.toNat xs).flatten

/-- A sequence several times over. -/
def repeated (v : Value) (n : Int) : Except Fault Value :=
  match v with
  | text s => (times n .overflow s.toList).map fun cs => text (String.ofList cs)
  | list vs => (times n .outOfMemory vs).map list
  | tuple vs => (times n .outOfMemory vs).map tuple
  | bytes bs => (times n .overflow bs).map bytes
  | byteArray bs => (times n .outOfMemory bs).map byteArray
  | _ => .error .wrongKind

/-- Two numbers multiplied, or a sequence several times over. -/
def mul (id : Nat) (v w : Value) : Except Fault Value :=
  match arithmetic? (· * ·) (· * ·) id v w with
  | some r => r
  | none =>
    match v.whole?, w.whole? with
    | _, some n => v.repeated n
    | some n, _ => w.repeated n
    | _, _ => .error .wrongKind

/-! ## Items -/

/-- A text of one character. -/
def ofChar (c : Char) : Value := text (String.singleton c)

/-- A byte as a number. -/
def ofByte (b : UInt8) : Value := int b.toNat

/-- The items of whatever has them by index, ranges apart. -/
def indexed? : Value → Option (List Value)
  | text s => some (s.toList.map ofChar)
  | bytes bs | byteArray bs => some (bs.map ofByte)
  | list vs | tuple vs => some vs
  | _ => none

/-- An item by its index, counted from the end if negative. -/
def atIndex (vs : List Value) (i : Int) : Except Fault Value :=
  let i := if i < 0 then i + vs.length else i
  if i < 0 then .error .outOfRange
  else
    match vs[i.toNat]? with
    | some v => .ok v
    | none => .error .outOfRange

/-- An integer of a range by its index, counted from the end if negative. -/
def atRangeIndex (start stop step i : Int) : Except Fault Value :=
  let size : Int := rangeLength start stop step
  let i := if i < 0 then i + size else i
  if i < 0 ∨ size ≤ i then .error .outOfRange else .ok (int (start + i * step))

/-- The item at an index or under a key. -/
def item (v key : Value) : Except Fault Value :=
  match v with
  | dict es =>
    if !key.isKey then .error .wrongKind
    else
      match Entries.get? es key with
      | some v => .ok v
      | none => .error (.noKey key)
  | range start stop step =>
    match key.whole? with
    | some i => atRangeIndex start stop step i
    | none => .error .wrongKind
  | v =>
    match v.indexed?, key.whole? with
    | some vs, some i => atIndex vs i
    | _, _ => .error .wrongKind

/-- The number of integers in a range, which must not be too large. -/
def lengthOfRange (start stop step : Int) : Except Fault Nat :=
  let size := rangeLength start stop step
  if size < sizeLimit then .ok size else .error .overflow

/-- Whether a section is shown for a value. This cannot be told of a range that is too long. -/
def truth : Value → Except Fault Bool
  | range start stop step => (lengthOfRange start stop step).map (0 < ·)
  | v => .ok v.isTruthy

/-- Whether a value counts as empty in a condition. This cannot be told of a range that is too
long. -/
def vacant : Value → Except Fault Bool
  | range start stop step => (lengthOfRange start stop step).map (· == 0)
  | v => .ok v.isVacant

/-- The first item, and null for what counts as empty. -/
def first (v : Value) : Except Fault Value := do
  if ← v.vacant then pure null else v.item (int 0)

/-- The number of items. -/
def length : Value → Except Fault Value
  | dict es => .ok (int es.length)
  | range start stop step => (lengthOfRange start stop step).map fun n => int n
  | v =>
    match v.indexed? with
    | some vs => .ok (int vs.length)
    | none => .error .wrongKind

/-- The items from the last to the first. -/
def reverse : Value → Except Fault Value
  | text s => .ok (text (String.ofList s.toList.reverse))
  | bytes bs => .ok (bytes bs.reverse)
  | byteArray bs => .ok (byteArray bs.reverse)
  | list vs => .ok (list vs.reverse)
  | tuple vs => .ok (tuple vs.reverse)
  | range start stop step =>
    .ok (range (start + ((rangeLength start stop step : Int) - 1) * step) (start - step) (-step))
  | _ => .error .wrongKind

/-! ## Text -/

/-- An operation on the characters of a text. -/
def onText (f : List Char → List Char) : Value → Except Fault Value
  | text s => .ok (text (String.ofList (f s.toList)))
  | _ => .error .wrongKind

/-- Texts and integers as text. -/
def joinable : Value → Except Fault String
  | text s => .ok s
  | int n => if isTooLong n then .error .wrongValue else .ok (toString n)
  | _ => .error .wrongKind

/-- Texts and integers joined. -/
def join (vs : List Value) : Except Fault Value :=
  match vs.mapM joinable with
  | .ok parts => .ok (text (String.join parts))
  | .error e => .error e

/-- What is known of the tag for which a value is written. -/
structure Occasion where
  expression : Option String := none
  templateName : Value := .null
  line : Option Int := none
  deriving Inhabited

/-- The error for a value that has no text. -/
def unprintable (v : Value) (o : Occasion) : Unrenderable :=
  { problem := .unprintable v.typeName
    expression := o.expression
    values := [("value", v)]
    templateName := o.templateName
    line := o.line
    suggestion := some "Iterate it with a section, or interpolate one of its members" }

/-- The quoted form of a value, if it can be written. -/
def quotedOrFault (v : Value) : Except Fault String :=
  if v.isUnwritable then .error .wrongValue else .ok v.quoted

/-- The plain text of a value, if it can be written. -/
def plainOrFault (v : Value) : Except Fault String :=
  if v.isUnwritable then .error .wrongValue else .ok v.plain

/-- The text that a template writes for a value: nothing for a missing value and for null. Tables
and sequences have no text. -/
def write (v : Value) (o : Occasion) : Except Fault String :=
  match v with
  | missing | null => .ok ""
  | text s => .ok s
  | bool b => .ok (if b then "true" else "false")
  | v =>
    if v.isMapping || v.isSequence then .error (.unrenderable (v.unprintable o))
    else v.plainOrFault

end Mustache.Value
