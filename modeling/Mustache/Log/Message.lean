import Mustache.Decimal.Fixed
import Mustache.Value.Operations

/-!
# Messages with fields

A log message may refer to the fields of its event: a percent sign, the name of a field in
parentheses, flags, a width, a precision, and a letter for the kind of conversion.

## Main definitions

* `Mustache.Conversion` — how a reference writes its field.
* `Mustache.Cursor.readConversion` — reads a reference behind the name of its field.
* `Mustache.formatMessage` — a message with its references replaced.
-/

namespace Mustache

/-- How a reference writes its field. -/
structure Conversion where
  left : Bool := false
  plus : Bool := false
  blank : Bool := false
  alternate : Bool := false
  zero : Bool := false
  width : Nat := 0
  precision : Option Nat := none
  letter : Char := 's'

/-- The text up to the parenthesis that closes one which is already open, and the rest. -/
def parenthesized? : (depth : Nat) → List Char → Option (List Char × List Char)
  | _, [] => none
  | 0, ')' :: cs => some ([], cs)
  | depth + 1, ')' :: cs => (parenthesized? depth cs).map fun p => (')' :: p.1, p.2)
  | depth, '(' :: cs => (parenthesized? (depth + 1) cs).map fun p => ('(' :: p.1, p.2)
  | depth, c :: cs => (parenthesized? depth cs).map fun p => (c :: p.1, p.2)

/-- Reads flags. -/
def readFlags (c : Conversion) : List Char → Conversion × List Char
  | '-' :: cs => readFlags { c with left := true } cs
  | '+' :: cs => readFlags { c with plus := true } cs
  | ' ' :: cs => readFlags { c with blank := true } cs
  | '#' :: cs => readFlags { c with alternate := true } cs
  | '0' :: cs => readFlags { c with zero := true } cs
  | cs => (c, cs)

/-- Reads digits as a number. -/
def readNumber (cs : List Char) : Nat × List Char :=
  ((cs.takeWhile Char.isDigit).foldl (fun n c => 10 * n + (c.toNat - 48)) 0,
    cs.dropWhile Char.isDigit)

/-- What a precision has to stay below. -/
def precisionLimit : Nat := 1 <<< 31

namespace Conversion

/-- The text at its width, filled with spaces. -/
def padText (c : Conversion) (cs : List Char) : List Char :=
  let fill := List.replicate (c.width - cs.length) ' '
  if c.left then cs ++ fill else fill ++ cs

/-- Text cut to the precision, at its width. -/
def asText (c : Conversion) (cs : List Char) : List Char :=
  c.padText (match c.precision with
    | some p => cs.take p
    | none => cs)

/-- A number from its sign, a mark of its base and its digits, at its width. -/
def asNumber (c : Conversion) (negative : Bool) (mark digits : List Char) : List Char :=
  let sign := if negative then ['-'] else if c.plus then ['+'] else if c.blank then [' '] else []
  if c.zero && !c.left then
    let fill := List.replicate (c.width - (sign ++ mark ++ digits).length) '0'
    sign ++ mark ++ fill ++ digits
  else c.padText (sign ++ mark ++ digits)

/-- An integer to a base, with at least as many digits as the precision asks for. -/
def asInteger (c : Conversion) (base : Nat) (mark : List Char) (n : Int) : List Char :=
  let digits := Nat.toDigits base n.natAbs
  let digits := List.replicate (c.precision.getD 0 - digits.length) '0' ++ digits
  c.asNumber (n < 0) (if c.alternate then mark else []) digits

/-- A floating-point number. -/
def asFloat (c : Conversion) (x : Float) : List Char :=
  let negative := !x.isNaN && Decimal.isNegative x
  let upper (cs : List Char) : List Char := if c.letter.isUpper then cs.map Char.toUpper else cs
  match Decimal.Binary.ofFloat? x with
  | none =>
    c.asNumber negative [] (upper (if x.isNaN then "nan".toList else "inf".toList))
  | some b =>
    let (num, den) := Decimal.Binary.scale b.significand b.exponent
    let places := c.precision.getD 6
    let digits := match c.letter.toLower with
      | 'f' => Decimal.fixed c.alternate places num den
      | 'e' => Decimal.exponential c.alternate places num den
      | _ => Decimal.general c.alternate places num den
    c.asNumber negative [] (upper digits)

/-- The integer part of a floating-point number. -/
def truncated? (x : Float) : Except Fault Int :=
  match Decimal.Binary.ofFloat? x with
  | none => .error (if x.isNaN then .wrongValue else .overflow)
  | some b =>
    let (num, den) := Decimal.Binary.scale b.significand b.exponent
    let n : Int := (num / den : Nat)
    .ok (if Decimal.isNegative x then -n else n)

/-- The integer that a value is written as with a decimal conversion. -/
def integerOf : Value → Except Fault Int
  | .int n => .ok n
  | .bool b => .ok (if b then 1 else 0)
  | .float x _ => truncated? x
  | _ => .error .wrongKind

/-- The integer that a value is written as with a conversion to another base. -/
def wholeOf : Value → Except Fault Int
  | .int n => .ok n
  | .bool b => .ok (if b then 1 else 0)
  | _ => .error .wrongKind

/-- The floating-point number that a value is written as. -/
def floatOf (v : Value) : Except Fault Float :=
  match v.number? with
  | some x => x
  | none => .error .wrongKind

/-- The character that a value is written as. -/
def charOf : Value → Except Fault Char
  | .int n => if 0 ≤ n ∧ n < 0x110000 then .ok (Char.ofNat n.toNat) else .error .overflow
  | .bool b => .ok (Char.ofNat (if b then 1 else 0))
  | .text s =>
    match s.toList with
    | [c] => .ok c
    | _ => .error .wrongKind
  | _ => .error .wrongKind

/-- A quoted form in ASCII. -/
def asciiOnly (s : String) : List Char :=
  s.toList.flatMap fun c =>
    if c.toNat < 0x80 then [c]
    else if c.toNat < 0x100 then '\\' :: 'x' :: Text.hexDigits 2 c.toNat
    else if c.toNat < 0x10000 then '\\' :: 'u' :: Text.hexDigits 4 c.toNat
    else '\\' :: 'U' :: Text.hexDigits 8 c.toNat

/-- Numbers of digits above this one are too large for integers. -/
def digitsLimit : Nat := precisionLimit - 4

/-- An integer to a base, unless it is to have too many digits. -/
def writeInteger (c : Conversion) (base : Nat) (mark : List Char) (n : Int) :
    Except Fault (List Char) :=
  if c.precision.getD 0 > digitsLimit then .error .overflow else .ok (c.asInteger base mark n)

/-- A value as the conversion writes it. -/
def write (c : Conversion) (v : Value) : Except Fault (List Char) :=
  match c.letter with
  | 's' => .ok (c.asText v.plain.toList)
  | 'r' => .ok (c.asText v.quoted.toList)
  | 'a' => .ok (c.asText (asciiOnly v.quoted))
  | 'd' | 'i' | 'u' => integerOf v >>= c.writeInteger 10 []
  | 'o' => wholeOf v >>= c.writeInteger 8 ['0', 'o']
  | 'x' => wholeOf v >>= c.writeInteger 16 ['0', 'x']
  | 'X' => (wholeOf v >>= c.writeInteger 16 ['0', 'x']).map fun cs => cs.map Char.toUpper
  | 'c' => (charOf v).map fun x => c.padText [x]
  | 'e' | 'E' | 'f' | 'F' | 'g' | 'G' => (floatOf v).map c.asFloat
  | _ => .error .wrongValue

/-- A value as the conversion writes it, if there is room for its width. -/
def apply (c : Conversion) (v : Value) : Except Fault (List Char) :=
  if c.width < roomLimit then c.write v
  else ({ c with width := 0 }.write v).bind fun _ => .error .outOfMemory

end Conversion

/-- The fields of an event. -/
abbrev Fields := List (String × Value)

/-- The fields as a table. -/
def Fields.toValue (fields : Fields) : Value := .dict (fields.map fun f => (.text f.1, f.2))

/-! ## Reading references -/

/-- Text that is still to be read, and the value that is the next to be used. A name makes the
value of its field the next one; before any name this is the table of all fields. Each is used
once. -/
structure Cursor where
  rest : List Char
  next : Option Value

namespace Cursor

/-- Uses the next value. -/
def fetch (c : Cursor) : Except Fault (Value × Cursor) :=
  match c.next with
  | some v => .ok (v, { c with next := none })
  | none => .error .wrongKind

/-- Reads the name of a field, if a parenthesis follows. -/
def readName (fields : Fields) (c : Cursor) : Except Fault Cursor :=
  match c.rest with
  | '(' :: rest =>
    match parenthesized? 0 rest with
    | none => .error .wrongValue
    | some (name, rest) =>
      match fields.lookup (String.ofList name) with
      | some v => .ok ⟨rest, some v⟩
      | none => .error (.noKey (.text (String.ofList name)))
  | _ => .ok c

/-- Reads a number below a limit: digits, or an asterisk for the next value. -/
def readSize (limit : Nat) (c : Cursor) : Except Fault (Int × Cursor) :=
  match c.rest with
  | '*' :: rest => do
    let (v, c) ← c.fetch
    match v.whole? with
    | none => throw .wrongKind
    | some n =>
      if n < -limit ∨ limit ≤ n then throw .overflow else pure (n, { c with rest })
  | _ =>
    let (n, rest) := readNumber c.rest
    if n < limit then .ok (n, { c with rest }) else .error .wrongValue

/-- Reads the precision, if a point follows. One below zero counts as zero. -/
def readPrecision (c : Cursor) : Except Fault (Option Nat × Cursor) :=
  match c.rest with
  | '.' :: rest => do
    let (n, c) ← readSize precisionLimit { c with rest }
    pure (some n.toNat, c)
  | _ => .ok (none, c)

/-- Skips a letter that says nothing. -/
def skipSize (c : Cursor) : Cursor :=
  match c.rest with
  | 'h' :: rest | 'l' :: rest | 'L' :: rest => { c with rest }
  | _ => c

/-- Reads the rest of a reference: flags, width, precision and letter. -/
def readConversion (c : Cursor) : Except Fault (Conversion × Cursor) := do
  let (conversion, rest) := readFlags {} c.rest
  let (width, c) ← readSize sizeLimit { c with rest }
  let (precision, c) ← readPrecision c
  let c := c.skipSize
  match c.rest with
  | [] => throw .wrongValue
  | letter :: rest =>
    pure ({ conversion with
      left := conversion.left || width < 0, width := width.natAbs, precision, letter },
      { c with rest })

end Cursor

/-! ## Messages -/

/-- A message with its references replaced. The fuel is the length of the message. -/
def formatFrom (fields : Fields) (next : Option Value) : (fuel : Nat) → List Char →
    Except Fault (List Char)
  | 0, _ => .ok []
  | _, [] => .ok []
  | fuel + 1, '%' :: '%' :: cs => (formatFrom fields next fuel cs).map ('%' :: ·)
  | fuel + 1, '%' :: cs => do
    let c ← Cursor.readName fields ⟨cs, next⟩
    let (conversion, c) ← c.readConversion
    let (v, c) ← c.fetch
    let shown ← conversion.apply v
    let rest ← formatFrom fields c.next fuel c.rest
    pure (shown ++ rest)
  | fuel + 1, c :: cs => (formatFrom fields next fuel cs).map (c :: ·)

/-- A message with the references to fields replaced. -/
def formatMessage (message : String) (fields : Fields) : Except Fault String :=
  let cs := message.toList
  (formatFrom fields (some fields.toValue) cs.length cs).map String.ofList

end Mustache
