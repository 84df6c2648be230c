import Mustache.Delimiters
import Mustache.Text.Quoted

/-!
# Tokens

A template is a sequence of tags and of the stretches of text between them. A token is one of
either, with its place in the source and the delimiters under which it was found.

## Main definitions

* `Mustache.Place` — a line and a column.
* `Mustache.TokenKind` — text, or one of the nine kinds of tag.
* `Mustache.Token` — a stretch of text or a tag.
-/

namespace Mustache

/-- A line, counted from one, and a column, counted from zero. -/
structure Place where
  line : Nat
  column : Nat
  deriving DecidableEq, Repr, Inhabited

/-- Text, or a kind of tag. -/
inductive TokenKind where
  /-- Literal text. -/
  | text
  /-- `{{name}}`, whose value is escaped. -/
  | interpolation
  /-- `{{{name}}}` or `{{&name}}`, whose value is not escaped. -/
  | rawInterpolation
  /-- `{{#name}}`. -/
  | sectionStart
  /-- `{{^name}}`. -/
  | invertedStart
  /-- `{{/name}}`. -/
  | sectionEnd
  /-- `{{>name}}`. -/
  | inclusion
  /-- `{{! remark }}`. -/
  | comment
  /-- `{{=<% %>=}}`. -/
  | delimiterChange
  /-- `{{%NAME}}`. -/
  | pragma
  deriving DecidableEq, Repr, Inhabited

namespace TokenKind

/-- The kinds with the words that name them. -/
def labels : List (TokenKind × String) :=
  [(text, "TEXT"), (interpolation, "VARIABLE"), (rawInterpolation, "UNESCAPED"),
    (sectionStart, "SECTION"), (invertedStart, "INVERTED"), (sectionEnd, "CLOSE"),
    (inclusion, "PARTIAL"), (comment, "COMMENT"), (delimiterChange, "DELIMITER"),
    (pragma, "PRAGMA")]

/-- The word that names the kind. -/
def label (k : TokenKind) : String := (labels.lookup k).getD ""

/-- The kind that a word names. -/
def ofLabel? (word : String) : Option TokenKind :=
  (labels.find? fun entry => entry.2 == word).map Prod.fst

/-- Interpolations write something in their place, so they never have their line removed. -/
def isInterpolation (k : TokenKind) : Bool := k == interpolation || k == rawInterpolation

end TokenKind

/-- A stretch of text or a tag of a template. -/
structure Token where
  kind : TokenKind
  /-- The literal text, or the trimmed content of the tag. -/
  value : String
  place : Place
  /-- Where the stretch or the opening delimiter begins in the source. -/
  start : Nat
  /-- Where the stretch or the closing delimiter ends in the source. -/
  stop : Nat
  /-- The delimiters in effect at the token. -/
  delims : Delimiters
  /-- The blanks removed in front of an inclusion that has its line to itself. -/
  indent : String
  deriving DecidableEq, Repr, Inhabited

/-- A short rendition of the token: kind, quoted value and place. -/
def Token.summary (t : Token) : String :=
  "Token(" ++ t.kind.label ++ ", " ++ Text.quoted t.value ++ ", " ++ toString t.place.line ++
    ":" ++ toString t.place.column ++ ")"

end Mustache
