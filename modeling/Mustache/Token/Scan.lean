import Mustache.Error.Malformed
import Mustache.Text.Search
import Mustache.Token

/-!
# Scanning a template

The scanner walks through the source from tag to tag. It looks for the opening delimiter, reads
the tag up to its closing delimiter, and then looks at the line around the tag: a tag other than
an interpolation that has its line to itself takes the blanks and the ending of that line with
it. A delimiter change takes effect right after its tag, wherever it stands.

## Main definitions

* `Mustache.Position` — an offset with its line and column.
* `Mustache.Tag` — a tag with what follows it.
* `Mustache.readTag` — reads a tag from just past its opening delimiter.
* `Mustache.standalone?` — the margins of a tag that has its line to itself.
* `Mustache.scan` — the tokens of a source.
* `Mustache.tokenize` — the same for a named template.

## Implementation notes

The scanner consumes the source as a list of characters, so that no offset can leave it. It ends
because every tag that it accepts has at least one character between its delimiters.
-/

namespace Mustache

/-! ## Positions -/

/-- An offset into a source, with the line and the column that belong to it. -/
structure Position where
  offset : Nat
  line : Nat
  column : Nat
  deriving DecidableEq, Repr, Inhabited

namespace Position

/-- The start of a source. -/
def start : Position := ⟨0, 1, 0⟩

/-- The position after one more character. -/
def next (p : Position) (c : Char) : Position :=
  if c == '\n' then ⟨p.offset + 1, p.line + 1, 0⟩ else ⟨p.offset + 1, p.line, p.column + 1⟩

/-- The position after some more characters. -/
def advance (p : Position) (cs : List Char) : Position := cs.foldl next p

/-- The line and the column. -/
def place (p : Position) : Place := ⟨p.line, p.column⟩

end Position

/-! ## Reading a tag -/

/-- The character after the opening delimiter that makes a tag something else than an
interpolation that is escaped, with the kind of the tag. -/
def sigils : List (Char × TokenKind) :=
  [('\x7b', .rawInterpolation), ('#', .sectionStart), ('^', .invertedStart), ('/', .sectionEnd),
    ('>', .inclusion), ('!', .comment), ('&', .rawInterpolation), ('=', .delimiterChange),
    ('%', .pragma)]

/-- The sigil with which the text starts, and the kind of tag it stands for. -/
def sigilOf (body : List Char) : List Char × TokenKind :=
  match body with
  | [] => ([], .interpolation)
  | c :: _ =>
    match sigils.lookup c with
    | some kind => ([c], kind)
    | none => ([], .interpolation)

/-- What closes a tag with the given sigil: a brace and an equals sign are closed by their
counterpart in front of the closing delimiter. -/
def closerOf (delims : Delimiters) (sigil : List Char) : List Char :=
  match sigil with
  | ['\x7b'] => '\x7d' :: delims.closing.toList
  | ['='] => '=' :: delims.closing.toList
  | _ => delims.closing.toList

/-- A tag that has been read. -/
structure Tag where
  kind : TokenKind
  /-- The content without the blanks around it. -/
  value : List Char
  /-- The text of the tag from just past its opening delimiter. -/
  consumed : List Char
  /-- The text after the tag. -/
  rest : List Char

/-- Comments and delimiter changes may be empty as far as reading them is concerned. -/
def mayBeEmpty (kind : TokenKind) : Bool := kind == .comment || kind == .delimiterChange

/-- Reads a tag whose opening delimiter has just been passed. -/
def readTag (delims : Delimiters) (body : List Char) : Except Malformation Tag :=
  let sigil := (sigilOf body).1
  let kind := (sigilOf body).2
  let closer := closerOf delims sigil
  match Text.cut? closer (body.drop sigil.length) with
  | none => .error (.unclosedTag (String.ofList closer))
  | some (inner, rest) =>
    let value := Text.trim inner
    if value.isEmpty && !mayBeEmpty kind then .error .emptyTag
    else .ok { kind, value, consumed := sigil ++ inner ++ closer, rest }

/-! ## Tags that have their line to themselves -/

/-- The blanks after a tag and the ending of its line, if nothing else follows on the line; and
the text after them. -/
def lineRest? (rest : List Char) : Option (List Char × List Char) :=
  let blanks := rest.takeWhile Text.isMargin
  match rest.dropWhile Text.isMargin with
  | [] => some (blanks, [])
  | '\n' :: after => some (blanks ++ ['\n'], after)
  | '\r' :: '\n' :: after => some (blanks ++ ['\r', '\n'], after)
  | _ => none

/-- What is dropped around a tag that has its line to itself. -/
structure Margins where
  /-- The blanks in front of the tag. -/
  before : List Char
  /-- The blanks behind the tag with the line ending. -/
  after : List Char
  /-- The text behind the margins. -/
  rest : List Char

/-- The margins of a tag between `before` and `rest`, where `before` reaches back to the end of
the previous tag and starts at a line start if `fresh` holds. -/
def standalone? (kind : TokenKind) (fresh : Bool) (before rest : List Char) : Option Margins :=
  if kind.isInterpolation then none
  else if !(fresh || before.contains '\n') then none
  else
    let blanks := Text.lastLine before
    if blanks.all Text.isMargin then
      (lineRest? rest).map fun parts => { before := blanks, after := parts.1, rest := parts.2 }
    else none

/-! ## Scanning -/

/-- The token for a stretch of text; there is none for the empty stretch. -/
def textToken (delims : Delimiters) (spot : Position) (cs : List Char) : List Token :=
  if cs.isEmpty then []
  else
    [{ kind := .text, value := String.ofList cs, place := spot.place, start := spot.offset,
       stop := spot.offset + cs.length, delims, indent := "" }]

/-- The tokens of the text before a tag and of the tag. -/
def tagTokens (delims : Delimiters) (pos : Position) (before : List Char) (tag : Tag)
    (margins : Option Margins) : List Token :=
  let spot := pos.advance before
  let dropped := (margins.map Margins.before).getD []
  let indent := if tag.kind == .inclusion then String.ofList dropped else ""
  textToken delims pos (before.take (before.length - dropped.length)) ++
    [{ kind := tag.kind, value := String.ofList tag.value, place := spot.place,
       start := spot.offset, stop := spot.offset + delims.opening.length + tag.consumed.length,
       delims, indent }]

/-- The delimiters in effect after a tag. -/
def delimsAfter (delims : Delimiters) (tag : Tag) : Except Malformation Delimiters :=
  if tag.kind == .delimiterChange then
    match Delimiters.ofWords? tag.value with
    | some changed => .ok changed
    | none => .error (.invalidDelimiters (String.ofList tag.value))
  else .ok delims

/-- A refused tag: the cause, and where the tag begins. -/
structure Misread where
  cause : Malformation
  spot : Position
  deriving DecidableEq, Repr

theorem length_sigilOf_le (body : List Char) : (sigilOf body).1.length ≤ body.length := by
  unfold sigilOf
  split
  · simp
  · split <;> simp

/-- A tag that is read leaves less text than there was. -/
theorem length_rest_of_readTag {delims : Delimiters} {body : List Char} {tag : Tag}
    (h : readTag delims body = .ok tag) : tag.rest.length < body.length := by
  unfold readTag at h
  have hle := length_sigilOf_le body
  generalize hs : sigilOf body = sigil at h hle
  obtain ⟨sigil, kind⟩ := sigil
  simp only at h hle
  split at h
  · simp at h
  · next inner rest hcut =>
    have hlen := Text.length_of_cut?_eq_some hcut
    split at h
    · simp at h
    · next hempty =>
      simp only [Except.ok.injEq] at h
      subst h
      simp only [List.length_drop] at hlen ⊢
      by_cases hk : sigil = []
      · subst hk
        have hkind : kind = .interpolation := by
          unfold sigilOf at hs
          split at hs
          · simp_all
          · split at hs <;> simp_all
        subst hkind
        have hinner : inner ≠ [] := by
          rintro rfl
          simp [Text.trim, mayBeEmpty] at hempty
        have := List.length_pos_iff.2 hinner
        simp only [List.length_nil] at hlen
        omega
      · have := List.length_pos_iff.2 hk
        omega

theorem length_of_lineRest?_eq_some {rest blanks after : List Char}
    (h : lineRest? rest = some (blanks, after)) : after.length ≤ rest.length := by
  have hd : (rest.dropWhile Text.isMargin).length ≤ rest.length :=
    (List.dropWhile_suffix Text.isMargin).length_le
  unfold lineRest? at h
  split at h <;> simp_all <;> omega

theorem length_rest_of_standalone? {kind : TokenKind} {fresh : Bool} {before rest : List Char}
    {m : Margins} (h : standalone? kind fresh before rest = some m) :
    m.rest.length ≤ rest.length := by
  unfold standalone? at h
  split at h
  · simp at h
  · split at h
    · simp at h
    · dsimp only at h
      split at h
      · obtain ⟨parts, hparts, rfl⟩ := Option.map_eq_some_iff.1 h
        exact length_of_lineRest?_eq_some hparts
      · simp at h

/-- The text that is left after a tag and its margins. -/
def restAfter (tag : Tag) (margins : Option Margins) : List Char :=
  (margins.map Margins.rest).getD tag.rest

theorem length_restAfter_le (tag : Tag) (kind : TokenKind) (fresh : Bool) (before : List Char) :
    (restAfter tag (standalone? kind fresh before tag.rest)).length ≤ tag.rest.length := by
  unfold restAfter
  cases hm : standalone? kind fresh before tag.rest with
  | none => simp
  | some m => simpa using length_rest_of_standalone? hm

/-- The position after a tag and its margins. -/
def positionAfter (delims : Delimiters) (pos : Position) (before : List Char) (tag : Tag)
    (margins : Option Margins) : Position :=
  (pos.advance before).advance
    (delims.opening.toList ++ tag.consumed ++ (margins.map Margins.after).getD [])

/-- The tokens of the source from `pos` on, under the delimiters in effect there. -/
def scan (delims : Delimiters) (pos : Position) (source : List Char) :
    Except Misread (List Token) :=
  match _found : Text.cut? delims.opening.toList source with
  | none => .ok (textToken delims pos source)
  | some (before, body) =>
    match _read : readTag delims body with
    | .error cause => .error ⟨cause, pos.advance before⟩
    | .ok tag =>
      let margins := standalone? tag.kind (pos.column == 0) before tag.rest
      match delimsAfter delims tag with
      | .error cause => .error ⟨cause, pos.advance before⟩
      | .ok changed =>
        match scan changed (positionAfter delims pos before tag margins)
            (restAfter tag margins) with
        | .error e => .error e
        | .ok tokens => .ok (tagTokens delims pos before tag margins ++ tokens)
termination_by source.length
decreasing_by
  have h1 := Text.length_of_cut?_eq_some _found
  have h2 := length_rest_of_readTag _read
  have h3 := length_restAfter_le tag tag.kind (pos.column == 0) before
  omega

/-- The tokens of a template, or why it is refused. -/
def tokenize (source : String) (name : Value) (delims : Delimiters) :
    Except Malformed (List Token) :=
  match scan delims .start source.toList with
  | .ok tokens => .ok tokens
  | .error e =>
    .error { cause := e.cause, line := some e.spot.line, column := some e.spot.column, name,
             source := some source }

end Mustache
