import Mustache.Text.Hex
import Mustache.Text.Printable

/-!
# Quoted text

Text and bytes are quoted with apostrophes, or with double quotes if they hold an apostrophe and
no double quote. Inside, the backslash, the quote itself and whatever is not printable are written
as escapes.

## Main definitions

* `Mustache.Text.quoted` — quoted text.
* `Mustache.Text.quotedBytes`, `Mustache.Text.quotedByteArray` — quoted bytes.
-/

namespace Mustache.Text

/-- The quote for a text that holds the given characters. -/
def quoteFor (hasApostrophe hasDouble : Bool) : Char :=
  if hasApostrophe && !hasDouble then '"' else '\''

/-- A character as it stands in quoted text. -/
def quotedChar (quote c : Char) : List Char :=
  if c == quote || c == '\\' then ['\\', c]
  else if c == '\n' then ['\\', 'n']
  else if c == '\r' then ['\\', 'r']
  else if c == '\t' then ['\\', 't']
  else if isPrintable c then [c]
  else if c.toNat < 0x100 then '\\' :: 'x' :: hexDigits 2 c.toNat
  else if c.toNat < 0x10000 then '\\' :: 'u' :: hexDigits 4 c.toNat
  else '\\' :: 'U' :: hexDigits 8 c.toNat

/-- A text between quotes. -/
def quoted (s : String) : String :=
  let cs := s.toList
  let quote := quoteFor (cs.contains '\'') (cs.contains '"')
  String.ofList (quote :: cs.flatMap (quotedChar quote) ++ [quote])

/-- A byte as it stands between quotes: printable ASCII is written as its character. The mark and
the backslash are escaped. -/
def quotedByte (mark : Char) (b : UInt8) : List Char :=
  let c := Char.ofNat b.toNat
  if c == mark || c == '\\' then ['\\', c]
  else if c == '\n' then ['\\', 'n']
  else if c == '\r' then ['\\', 'r']
  else if c == '\t' then ['\\', 't']
  else if 0x20 ≤ b.toNat && b.toNat < 0x7F then [c]
  else '\\' :: 'x' :: hexDigits 2 b.toNat

/-- The quote for bytes. -/
def quoteForBytes (bytes : List UInt8) : Char := quoteFor (bytes.contains 39) (bytes.contains 34)

/-- Bytes between quotes behind the letter that tells them from text. -/
def bytesBetween (quote mark : Char) (bytes : List UInt8) : String :=
  String.ofList ('b' :: quote :: bytes.flatMap (quotedByte mark) ++ [quote])

/-- Quoted bytes. -/
def quotedBytes (bytes : List UInt8) : String :=
  bytesBetween (quoteForBytes bytes) (quoteForBytes bytes) bytes

/-- Quoted bytes that can change: in them an apostrophe is escaped whatever the quotes are. -/
def quotedByteArray (bytes : List UInt8) : String :=
  "bytearray(" ++ bytesBetween (quoteForBytes bytes) '\'' bytes ++ ")"

end Mustache.Text
