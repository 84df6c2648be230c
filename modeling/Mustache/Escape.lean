import Mustache.Text.Charset

/-!
# Escaping for markup

Interpolated values are escaped so that they can stand in an HTML text or in a quoted attribute:
ampersands, angle brackets and double quotes become entities. A character that the charset of the
output cannot represent becomes a numeric character reference.

What is escaped may also hold surrogates that stand by themselves. These are code points, but no
characters.

## Main definitions

* `Mustache.escapeChar` — the entities.
* `Mustache.reference` — a numeric character reference.
* `Mustache.escape` — a text escaped for a charset.
* `Mustache.CodePoint` — characters and surrogates.
* `Mustache.escapePoints` — code points escaped for a charset.

## Main results

* `Mustache.escapePoints_ofText` — code points of a text are escaped as the text is.
-/

namespace Mustache

/-- A character with a meaning in markup as its entity, and any other as itself. -/
def escapeChar (c : Char) : List Char :=
  match c with
  | '&' => "&amp;".toList
  | '<' => "&lt;".toList
  | '>' => "&gt;".toList
  | '"' => "&quot;".toList
  | c => [c]

/-- The numeric character reference for a number. -/
def referenceTo (n : Nat) : List Char := '&' :: '#' :: Nat.toDigits 10 n ++ [';']

/-- The numeric character reference for a character. -/
def reference (c : Char) : List Char := referenceTo c.toNat

/-- The charsets that represent every character, and for which nothing needs to be looked at. -/
def isUniversal (s : Text.Charset) : Bool :=
  s.name == "utf-8" || s.name == "utf-16" || s.name == "utf-32"

/-- The text with its entities in place. -/
def escapeMarkup (cs : List Char) : List Char := cs.flatMap escapeChar

/-- Why a text cannot be escaped. -/
inductive EscapeFailure where
  /-- There is no charset with the name. -/
  | charset (e : Text.Charset.NameFailure)
  /-- The charset takes no such text. -/
  | text (e : Text.DecodingFailure)
  deriving DecidableEq, Repr, Inhabited

/-- The text escaped for a charset. -/
def escapeFor (s : Text.Charset) (text : String) : Except EscapeFailure String :=
  let escaped := escapeMarkup text.toList
  if isUniversal s || escaped.all (fun c => c.toNat < 128) then .ok (String.ofList escaped)
  else
    match s.coding with
    | .notText => .error (.charset .unknown)
    | _ => (s.retell reference escaped).map String.ofList |>.mapError EscapeFailure.text

/-- The text escaped for the charset with a name. -/
def escape (charset text : String) : Except EscapeFailure String :=
  match Text.Charset.find charset with
  | .ok s => escapeFor s text
  | .error e => .error (.charset e)

/-! ## Code points -/

/-- A code point: a character, or a surrogate that stands by itself. -/
inductive CodePoint where
  | char (c : Char)
  | surrogate (n : Fin 2048)
  deriving DecidableEq, Repr, Inhabited

namespace CodePoint

/-- The number of a code point. -/
def toNat : CodePoint → Nat
  | char c => c.toNat
  | surrogate n => 0xD800 + n

/-- The code points of a text. -/
def ofText (text : String) : List CodePoint := text.toList.map char

/-- A character as it is escaped, and a surrogate as itself. -/
def escaped : CodePoint → List CodePoint
  | char c => (escapeChar c).map char
  | surrogate n => [surrogate n]

/-- The characters that are written for a code point. Where a surrogate has to be written there are
no bytes for it, so that a reference stands in its place. -/
def spelled : CodePoint → List Char
  | char c => [c]
  | surrogate n => referenceTo (surrogate n).toNat

end CodePoint

/-- The code points with their entities in place. -/
def escapePointsMarkup (ps : List CodePoint) : List CodePoint := ps.flatMap CodePoint.escaped

/-- Code points escaped for a charset. Nothing is looked at for the charsets that represent every
character, so that surrogates stay as they are there. The few codecs that have bytes for surrogates
as well, among them UTF-7 and Punycode, are not told from the others. -/
def escapePointsFor (s : Text.Charset) (ps : List CodePoint) :
    Except EscapeFailure (List CodePoint) :=
  let escaped := escapePointsMarkup ps
  if isUniversal s || escaped.all (fun p => p.toNat < 128) then .ok escaped
  else
    match s.coding with
    | .notText => .error (.charset .unknown)
    | _ => (s.retell reference (escaped.flatMap CodePoint.spelled)).map (List.map .char)
        |>.mapError EscapeFailure.text

/-- Code points escaped for the charset with a name. -/
def escapePoints (charset : String) (ps : List CodePoint) :
    Except EscapeFailure (List CodePoint) :=
  match Text.Charset.find charset with
  | .ok s => escapePointsFor s ps
  | .error e => .error (.charset e)

theorem escapePointsMarkup_map_char (cs : List Char) :
    escapePointsMarkup (cs.map .char) = (escapeMarkup cs).map .char := by
  rw [escapePointsMarkup, escapeMarkup, List.flatMap_map, List.map_flatMap]
  rfl

theorem flatMap_spelled_map_char (cs : List Char) :
    (cs.map CodePoint.char).flatMap CodePoint.spelled = cs := by
  rw [List.flatMap_map]
  exact List.flatMap_singleton' cs

/-- **Code points of a text are escaped as the text is.** -/
theorem escapePoints_ofText (charset text : String) :
    escapePoints charset (CodePoint.ofText text) = (escape charset text).map CodePoint.ofText := by
  unfold escapePoints escape
  cases Text.Charset.find charset with
  | error e => rfl
  | ok s =>
    have hascii : (escapePointsMarkup (CodePoint.ofText text)).all (fun p => p.toNat < 128) =
        (escapeMarkup text.toList).all (fun c => c.toNat < 128) := by
      rw [CodePoint.ofText, escapePointsMarkup_map_char, List.all_map]
      rfl
    dsimp only
    rw [escapePointsFor, escapeFor, hascii, CodePoint.ofText, escapePointsMarkup_map_char,
      flatMap_spelled_map_char]
    have hread (cs : List Char) : cs.map CodePoint.char = CodePoint.ofText (String.ofList cs) := by
      rw [CodePoint.ofText, String.toList_ofList]
    split
    · exact congrArg Except.ok (hread _)
    · split
      · rfl
      · cases s.retell reference (escapeMarkup text.toList) with
        | error e => rfl
        | ok cs => exact congrArg Except.ok (hread cs)

end Mustache
