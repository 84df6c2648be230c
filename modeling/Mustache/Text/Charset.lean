import Mustache.Text.Charset.Names
import Mustache.Text.Search

/-!
# Charsets

A charset is found by its name. Names are compared without regard to case and to what stands
between their letters and digits. A charset says which characters it can represent, and how bytes
are read as text.

## Main definitions

* `Mustache.Text.Charset.find` — the charset with a name.
* `Mustache.Text.Charset.represents` — whether a character can be represented.
* `Mustache.Text.Charset.retell` — a text after it has been written and read.
* `Mustache.Text.Charset.decode` — the text that bytes stand for.
-/

namespace Mustache.Text

/-- A charset. -/
structure Charset where
  /-- The canonical name. -/
  name : String
  coding : Coding

namespace Charset

/-- Letters, digits and the point, which count in a name. -/
def isNameChar (c : Char) : Bool := c.isAlphanum || c == '.'

/-- The part of a name that counts, in lower case; an underscore joins what was apart. The flag
tells whether something has been left out since the last character that counts. -/
def normalFrom (started gap : Bool) : List Char → List Char
  | [] => []
  | c :: cs =>
    if isNameChar c then
      (if gap && started then ['_', c.toLower] else [c.toLower]) ++ normalFrom true false cs
    else normalFrom started true cs

/-- The form of a name by which charsets are looked up. -/
def normalName (name : String) : String := String.ofList (normalFrom false false name.toList)

/-- The keys that a normal name may stand for, in the order in which they are tried. -/
def keysFor (normal : String) : List String :=
  let underscored := String.ofList (normal.toList.map fun c => if c == '.' then '_' else c)
  match charsetAliases.lookup normal <|> charsetAliases.lookup underscored with
  | some key => [key, normal]
  | none => [normal]

/-- The charset with a name, if the name may be looked up. -/
def named? (name : String) : Option Charset :=
  (keysFor (normalName name)).findSome? fun key =>
    (charsetTable.lookup key).map fun row => ⟨row.1, row.2⟩

/-- Why there is no charset for a name. -/
inductive NameFailure where
  /-- The name holds the zero character, and is not looked up. -/
  | inadmissible
  /-- There is no charset with the name, or it is none of text. -/
  | unknown
  deriving DecidableEq, Repr, Inhabited

/-- The charset with a name. -/
def find (name : String) : Except NameFailure Charset :=
  if name.toList.contains '\x00' then .error .inadmissible
  else
    match named? name with
    | some s => .ok s
    | none => .error .unknown

/-- The mark of a byte without a character. -/
def unassigned : Char := '\uFFFD'

/-- Whether a page gives some byte the character. -/
def pageHas (page : String) (c : Char) : Bool := c != unassigned && page.toList.contains c

/-- Whether the character can be represented. -/
def represents (s : Charset) (c : Char) : Bool :=
  match s.coding with
  | .everything _ => true
  | .codePointsBelow limit => c.toNat < limit
  | .asciiPage upper => c.toNat < 128 || pageHas upper c
  | .page all => pageHas all c
  | .multibyte write read => read (write (fun _ => []) [c]) == some [c]
  | .readOnly _ => false
  | .notText => false

/-- The text as a reader sees it who gets it in the charset, with substitutes for the characters
that do not fit. -/
def retell (s : Charset) (substitute : Char → List Char) (text : List Char) :
    Except DecodingFailure (List Char) :=
  match s.coding with
  | .multibyte write read => orInvalid (read (write substitute text))
  | .readOnly _ => .error .refused
  | _ => .ok (text.flatMap fun c => if s.represents c then [c] else substitute c)

/-! ## Reading bytes -/

/-- The character of a byte on a page. -/
def ofPage? (page : List Char) (b : Nat) : Option Char :=
  (page[b]?).filter (· != unassigned)

/-- The text that the bytes stand for. -/
def decode (s : Charset) (bs : List UInt8) : Except DecodingFailure (List Char) :=
  match s.coding with
  | .everything read => read bs
  | .codePointsBelow limit =>
    orInvalid (bs.mapM fun b => if b.toNat < limit then some (Char.ofNat b.toNat) else none)
  | .asciiPage upper =>
    orInvalid (bs.mapM fun b =>
      if b.toNat < 128 then some (Char.ofNat b.toNat) else ofPage? upper.toList (b.toNat - 128))
  | .page all => orInvalid (bs.mapM fun b => ofPage? all.toList b.toNat)
  | .multibyte _ read => orInvalid (read (bs.map UInt8.toNat))
  | .readOnly read => read bs
  | .notText => .error .invalid

end Charset

end Mustache.Text
