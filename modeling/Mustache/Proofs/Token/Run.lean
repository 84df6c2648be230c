import Mathlib.Data.List.TakeWhile
import Mustache.Proofs.Text.Line
import Mustache.Proofs.Text.Occurrence
import Mustache.Token.Scan

/-!
# Runs of the scanner

What the scanner does from one tag to the next, as a relation: either no opening delimiter is
left and the rest is text, or a tag is read, its margins are taken off, and the scan goes on
behind them. Properties of token lists are proved by induction on this relation, and each part of
a tag is described by one lemma.

## Main definitions

* `Mustache.SigilOf` — the sigil at the start of a text.
* `Mustache.marginsOf`, `Mustache.droppedBefore`, `Mustache.droppedAfter` — what a run drops around
  a tag.
* `Mustache.Scanned` — a run of the scanner that ends well.

## Main results

* `Mustache.readTag_eq_ok_iff` — when a tag is read, and what is read.
* `Mustache.standalone?_eq_some_iff` — when a tag has margins, and which.
* `Mustache.drop_stop_tagToken`, `Mustache.drop_offset_positionAfter` — what is left of the source
  behind a tag and behind its margins.
* `Mustache.scan_eq_ok_iff` — the scanner returns exactly the tokens of its runs.
-/

namespace Mustache

/-! ## Reading a tag -/

/-- The sigil at the start of a text and the kind of tag it stands for: the first character if it
is one of the sigils, and nothing otherwise. -/
inductive SigilOf : List Char → List Char → TokenKind → Prop
  | char {c : Char} {kind : TokenKind} {text : List Char} (h : (c, kind) ∈ sigils) :
    SigilOf (c :: text) [c] kind
  | absent {text : List Char} (h : ∀ c ∈ text.head?, ∀ kind, (c, kind) ∉ sigils) :
    SigilOf text [] .interpolation

/-- A character stands for one kind of tag. -/
theorem lookup_sigils_eq_some_iff {c : Char} {kind : TokenKind} :
    sigils.lookup c = some kind ↔ (c, kind) ∈ sigils := by
  constructor
  · intro h
    obtain ⟨l₁, l₂, heq, -⟩ := List.lookup_eq_some_iff.1 h
    simp [heq]
  · intro h
    simp only [sigils, List.mem_cons, Prod.mk.injEq, List.not_mem_nil, or_false] at h
    rcases h with ⟨rfl, rfl⟩ | ⟨rfl, rfl⟩ | ⟨rfl, rfl⟩ | ⟨rfl, rfl⟩ | ⟨rfl, rfl⟩ | ⟨rfl, rfl⟩ |
      ⟨rfl, rfl⟩ | ⟨rfl, rfl⟩ | ⟨rfl, rfl⟩ <;> rfl

/-- The sigil that is looked for is the one that is there. -/
theorem sigilOf_eq_iff {text sigil : List Char} {kind : TokenKind} :
    sigilOf text = (sigil, kind) ↔ SigilOf text sigil kind := by
  cases text with
  | nil =>
    simp only [sigilOf, Prod.mk.injEq]
    constructor
    · rintro ⟨rfl, rfl⟩
      exact .absent (by simp)
    · rintro ⟨⟩
      exact ⟨rfl, rfl⟩
  | cons c cs =>
    simp only [sigilOf]
    cases h : sigils.lookup c with
    | some k =>
      simp only [Prod.mk.injEq]
      constructor
      · rintro ⟨rfl, rfl⟩
        exact .char (lookup_sigils_eq_some_iff.1 h)
      · intro hs
        cases hs with
        | char hc =>
          rw [lookup_sigils_eq_some_iff.2 hc] at h
          simpa using h.symm
        | absent hno => exact absurd (lookup_sigils_eq_some_iff.1 h) (hno c rfl k)
    | none =>
      have hno : ∀ k, (c, k) ∉ sigils := fun k hk => by
        rw [lookup_sigils_eq_some_iff.2 hk] at h
        simp at h
      simp only [Prod.mk.injEq]
      constructor
      · rintro ⟨rfl, rfl⟩
        exact .absent (by simpa using hno)
      · intro hs
        cases hs with
        | char hc => exact absurd hc (hno kind)
        | absent _ => exact ⟨rfl, rfl⟩

/-- No sigil stands for a stretch of text. -/
theorem SigilOf.kind_ne_text {text sigil : List Char} {kind : TokenKind}
    (h : SigilOf text sigil kind) : kind ≠ .text := by
  cases h with
  | char h =>
    rintro rfl
    simp [sigils] at h
  | absent _ => simp

/-- A text starts with its sigil. -/
theorem SigilOf.eq_append_drop {text sigil : List Char} {kind : TokenKind}
    (h : SigilOf text sigil kind) : text = sigil ++ text.drop sigil.length := by
  cases h with
  | char _ => simp
  | absent _ => simp

/-- **What is read as a tag**: the sigil, the text up to the first closer, and the closer, where
only comments and delimiter changes may have nothing but blanks between sigil and closer. -/
theorem readTag_eq_ok_iff {d : Delimiters} {body : List Char} {tag : Tag} :
    readTag d body = .ok tag ↔ ∃ sigil inner : List Char,
      SigilOf body sigil tag.kind ∧
      body.drop sigil.length = inner ++ closerOf d sigil ++ tag.rest ∧
      (∀ i < inner.length, ¬ Text.OccursAt (closerOf d sigil) (body.drop sigil.length) i) ∧
      tag.value = Text.trim inner ∧
      tag.consumed = sigil ++ inner ++ closerOf d sigil ∧
      (tag.value = [] → mayBeEmpty tag.kind = true) := by
  unfold readTag
  obtain ⟨sigil, kind, hs⟩ : ∃ sigil kind, sigilOf body = (sigil, kind) := ⟨_, _, rfl⟩
  simp only [hs]
  have hsigil := sigilOf_eq_iff.1 hs
  cases hcut : Text.cut? (closerOf d sigil) (body.drop sigil.length) with
  | none =>
    simp only [reduceCtorEq, false_iff, not_exists, not_and]
    intro sigil' inner hs' heq
    obtain ⟨rfl, -⟩ := Prod.mk.inj ((sigilOf_eq_iff.2 hs').symm.trans hs)
    refine absurd ?_ (Text.cut?_eq_none_iff.1 hcut inner.length)
    exact ⟨tag.rest, by rw [heq, List.append_assoc, List.drop_left]⟩
  | some parts =>
    obtain ⟨inner, rest⟩ := parts
    obtain ⟨heq, hfirst⟩ := Text.cut?_eq_some_iff.1 hcut
    dsimp only
    constructor
    · intro h
      split at h
      · simp at h
      · next hempty =>
        obtain rfl := Except.ok.inj h
        refine ⟨sigil, inner, hsigil, heq, hfirst, rfl, rfl, fun hv => ?_⟩
        dsimp only at hv
        simpa [hv] using hempty
    · rintro ⟨sigil', inner', hs', heq', hfirst', hvalue, hconsumed, hempty⟩
      obtain ⟨rfl, hkind⟩ := Prod.mk.inj ((sigilOf_eq_iff.2 hs').symm.trans hs)
      have hcut' := Text.cut?_eq_some_iff.2 ⟨heq', hfirst'⟩
      rw [hcut, Option.some.injEq, Prod.mk.injEq] at hcut'
      obtain ⟨rfl, rfl⟩ := hcut'
      rw [if_neg]
      · rw [← hkind, ← hvalue, ← hconsumed]
      · rw [← hvalue, ← hkind]
        simpa using hempty

/-- No tag that is read is a stretch of text. -/
theorem kind_ne_text_of_readTag {d : Delimiters} {body : List Char} {tag : Tag}
    (read : readTag d body = .ok tag) : tag.kind ≠ .text := by
  obtain ⟨sigil, inner, hsigil, -⟩ := readTag_eq_ok_iff.1 read
  exact hsigil.kind_ne_text

/-! ## Margins -/

/-- The blanks behind a tag and the ending of its line, described without a search. -/
theorem lineRest?_eq_some_iff {rest dropped left : List Char} :
    lineRest? rest = some (dropped, left) ↔ ∃ blanks ending : List Char,
      (∀ c ∈ blanks, Text.isMargin c = true) ∧ dropped = blanks ++ ending ∧
      rest = dropped ++ left ∧
      (ending = ['\n'] ∨ ending = ['\r', '\n'] ∨ ending = [] ∧ left = []) := by
  unfold lineRest?
  constructor
  · intro h
    have hall : ∀ c ∈ rest.takeWhile Text.isMargin, Text.isMargin c = true :=
      fun c hc => List.mem_takeWhile_imp hc
    have happ := List.takeWhile_append_dropWhile (p := Text.isMargin) (l := rest)
    dsimp only at h
    split at h
    · next hd =>
      obtain ⟨rfl, rfl⟩ := Prod.mk.inj (Option.some.inj h)
      exact ⟨_, [], hall, by simp, by rw [← hd, happ], .inr (.inr ⟨rfl, rfl⟩)⟩
    · next after hd =>
      obtain ⟨rfl, rfl⟩ := Prod.mk.inj (Option.some.inj h)
      exact ⟨_, ['\n'], hall, rfl, by simpa [hd] using happ.symm, .inl rfl⟩
    · next after hd =>
      obtain ⟨rfl, rfl⟩ := Prod.mk.inj (Option.some.inj h)
      exact ⟨_, ['\r', '\n'], hall, rfl, by simpa [hd] using happ.symm, .inr (.inl rfl)⟩
    · simp at h
  · rintro ⟨blanks, ending, hall, rfl, rfl, hend⟩
    rw [List.append_assoc, List.takeWhile_append_of_pos hall, List.dropWhile_append_of_pos hall]
    rcases hend with rfl | rfl | ⟨rfl, rfl⟩
    · simp [Text.isMargin]
    · simp [Text.isMargin]
    · simp

/-- The margins of a tag under one condition, which does not look behind the tag. -/
theorem standalone?_eq_ite (kind : TokenKind) (fresh : Bool) (before rest : List Char) :
    standalone? kind fresh before rest =
      if !kind.isInterpolation && (fresh || before.contains '\n') &&
          (Text.lastLine before).all Text.isMargin then
        (lineRest? rest).map fun parts => ⟨Text.lastLine before, parts.1, parts.2⟩
      else none := by
  unfold standalone?
  cases kind.isInterpolation with
  | true => rfl
  | false =>
    cases (fresh || before.contains '\n') with
    | true => rfl
    | false => rfl

/-- **When a tag has its line to itself**: it is no interpolation, a line starts after the previous
tag, and only blanks stand beside the tag on its line. -/
theorem standalone?_eq_some_iff {kind : TokenKind} {fresh : Bool} {before rest : List Char}
    {m : Margins} : standalone? kind fresh before rest = some m ↔
      kind.isInterpolation = false ∧ (fresh = true ∨ '\n' ∈ before) ∧
      m.before = Text.lastLine before ∧ (∀ c ∈ m.before, Text.isMargin c = true) ∧
      lineRest? rest = some (m.after, m.rest) := by
  rw [standalone?_eq_ite, Option.ite_none_right_eq_some, Option.map_eq_some_iff, Bool.and_eq_true,
    Bool.and_eq_true, Bool.not_eq_true', Bool.or_eq_true, List.contains_iff_mem, List.all_eq_true]
  constructor
  · rintro ⟨⟨⟨hkind, hline⟩, hblank⟩, parts, hparts, rfl⟩
    exact ⟨hkind, hline, rfl, hblank, hparts⟩
  · rintro ⟨hkind, hline, hbefore, hblank, hparts⟩
    exact ⟨⟨⟨hkind, hline⟩, hbefore ▸ hblank⟩, _, hparts, by rw [← hbefore]⟩

/-- A tag that has its line to itself has only blanks in front of it. -/
theorem isMargin_of_standalone? {kind : TokenKind} {fresh : Bool} {before rest : List Char}
    {m : Margins} (h : standalone? kind fresh before rest = some m) {c : Char}
    (hc : c ∈ Text.lastLine before) : Text.isMargin c = true := by
  obtain ⟨-, -, hbefore, hall, -⟩ := standalone?_eq_some_iff.1 h
  exact hall c (hbefore ▸ hc)

/-- The margins of a tag that follows `before`, which starts at `pos`. -/
def marginsOf (pos : Position) (before : List Char) (tag : Tag) : Option Margins :=
  standalone? tag.kind (pos.column == 0) before tag.rest

/-- What is dropped in front of a tag. -/
def droppedBefore (margins : Option Margins) : List Char := (margins.map Margins.before).getD []

/-- What is dropped behind a tag. -/
def droppedAfter (margins : Option Margins) : List Char := (margins.map Margins.after).getD []

/-- The text after a tag is what is dropped of it and what is left. -/
theorem rest_eq_append_restAfter (pos : Position) (before : List Char) (tag : Tag) :
    tag.rest =
      droppedAfter (marginsOf pos before tag) ++ restAfter tag (marginsOf pos before tag) := by
  unfold droppedAfter restAfter
  cases h : marginsOf pos before tag with
  | none => simp
  | some m =>
    obtain ⟨-, -, -, -, hrest⟩ := standalone?_eq_some_iff.1 h
    obtain ⟨_, _, -, -, heq, -⟩ := lineRest?_eq_some_iff.1 hrest
    simpa using heq

/-- The text in front of a tag without the blanks that are dropped. -/
def keptBefore (before : List Char) (margins : Option Margins) : List Char :=
  before.take (before.length - (droppedBefore margins).length)

/-- The text in front of a tag is what is kept and what is dropped of it. -/
theorem keptBefore_append_droppedBefore (pos : Position) (before : List Char) (tag : Tag) :
    keptBefore before (marginsOf pos before tag) ++ droppedBefore (marginsOf pos before tag) =
      before := by
  have hsuffix : droppedBefore (marginsOf pos before tag) <:+ before := by
    unfold droppedBefore
    cases h : marginsOf pos before tag with
    | none => exact List.nil_suffix
    | some m =>
      obtain ⟨-, -, hbefore, -⟩ := standalone?_eq_some_iff.1 h
      simpa only [Option.map_some, Option.getD_some, hbefore] using Text.lastLine_suffix before
  unfold keptBefore
  generalize droppedBefore (marginsOf pos before tag) = dropped at hsuffix ⊢
  obtain ⟨kept, rfl⟩ := hsuffix
  rw [List.length_append, Nat.add_sub_cancel, List.take_left]

/-- The characters dropped in front of a tag are blanks of its line. -/
theorem isMargin_of_mem_droppedBefore {pos : Position} {before : List Char} {tag : Tag} {c : Char}
    (hc : c ∈ droppedBefore (marginsOf pos before tag)) : Text.isMargin c = true := by
  unfold droppedBefore at hc
  cases h : marginsOf pos before tag with
  | none => simp [h] at hc
  | some m =>
    obtain ⟨-, -, -, hall, -⟩ := standalone?_eq_some_iff.1 h
    rw [h] at hc
    exact hall c hc

/-- The characters dropped behind a tag are blank. -/
theorem isBlank_of_mem_droppedAfter {pos : Position} {before : List Char} {tag : Tag} {c : Char}
    (hc : c ∈ droppedAfter (marginsOf pos before tag)) : Text.isBlank c = true := by
  unfold droppedAfter at hc
  cases h : marginsOf pos before tag with
  | none => simp [h] at hc
  | some m =>
    obtain ⟨-, -, -, -, hrest⟩ := standalone?_eq_some_iff.1 h
    obtain ⟨blanks, ending, hall, hafter, -, hend⟩ := lineRest?_eq_some_iff.1 hrest
    rw [h, Option.map_some, Option.getD_some, hafter, List.mem_append] at hc
    rcases hc with hc | hc
    · have := hall c hc
      simp only [Text.isMargin, Bool.or_eq_true, beq_iff_eq] at this
      rcases this with rfl | rfl <;> decide
    · rcases hend with rfl | rfl | ⟨rfl, -⟩
      · rw [List.mem_singleton.1 hc]
        decide
      · rcases List.mem_pair.1 hc with rfl | rfl <;> decide
      · simp at hc

/-! ## Positions -/

namespace Position

/-- Advancing over two stretches. -/
theorem advance_append (p : Position) (cs ds : List Char) :
    p.advance (cs ++ ds) = (p.advance cs).advance ds :=
  List.foldl_append

/-- Every character counts once in the offset. -/
@[simp] theorem offset_advance (p : Position) (cs : List Char) :
    (p.advance cs).offset = p.offset + cs.length := by
  induction cs generalizing p with
  | nil => rfl
  | cons c cs ih =>
    have hnext : (p.next c).offset = p.offset + 1 := by
      unfold next
      split <;> rfl
    rw [List.length_cons, show p.advance (c :: cs) = (p.next c).advance cs from rfl, ih, hnext]
    omega

/-- The column is zero exactly behind a newline, and where it was zero before. -/
theorem column_advance_eq_zero_iff (p : Position) (cs : List Char) :
    (p.advance cs).column = 0 ↔ cs = [] ∧ p.column = 0 ∨ cs.getLast? = some '\n' := by
  rcases List.eq_nil_or_concat cs with rfl | ⟨init, c, rfl⟩
  · simp [advance]
  · have hadv : p.advance (init ++ [c]) = (p.advance init).next c := advance_append p init [c]
    rw [List.concat_eq_append, hadv, List.getLast?_append]
    by_cases hc : c = '\n'
    · simp [next, hc]
    · simp [next, hc]

end Position

/-! ## Tokens of a step -/

/-- The token of a tag behind `before`, which starts at `pos`. -/
def tagToken (d : Delimiters) (pos : Position) (before : List Char) (tag : Tag)
    (margins : Option Margins) : Token :=
  { kind := tag.kind, value := String.ofList tag.value, place := (pos.advance before).place,
    start := (pos.advance before).offset,
    stop := (pos.advance before).offset + d.opening.length + tag.consumed.length, delims := d,
    indent := if tag.kind == .inclusion then String.ofList (droppedBefore margins) else "" }

@[simp] theorem kind_tagToken (d : Delimiters) (pos : Position) (before : List Char) (tag : Tag)
    (margins : Option Margins) : (tagToken d pos before tag margins).kind = tag.kind :=
  rfl

@[simp] theorem start_tagToken (d : Delimiters) (pos : Position) (before : List Char) (tag : Tag)
    (margins : Option Margins) :
    (tagToken d pos before tag margins).start = pos.offset + before.length :=
  Position.offset_advance pos before

/-- Where a tag ends. -/
theorem stop_tagToken (d : Delimiters) (pos : Position) (before : List Char) (tag : Tag)
    (margins : Option Margins) : (tagToken d pos before tag margins).stop =
      pos.offset + before.length + d.opening.toList.length + tag.consumed.length := by
  simp only [tagToken, Position.offset_advance, String.length_toList]

/-- Where the scan goes on after a tag. -/
theorem offset_positionAfter (d : Delimiters) (pos : Position) (before : List Char) (tag : Tag)
    (margins : Option Margins) : (positionAfter d pos before tag margins).offset =
      (tagToken d pos before tag margins).stop + (droppedAfter margins).length := by
  rw [stop_tagToken]
  unfold positionAfter droppedAfter
  simp only [Position.offset_advance, List.length_append]
  omega

/-- A tag is read from the start of a text. -/
theorem eq_consumed_append_of_readTag {body : List Char} {d : Delimiters} {tag : Tag}
    (read : readTag d body = .ok tag) : body = tag.consumed ++ tag.rest := by
  obtain ⟨sigil, inner, hsigil, hbody, -, -, hconsumed, -⟩ := readTag_eq_ok_iff.1 read
  rw [hsigil.eq_append_drop, hbody, hconsumed]
  simp only [List.append_assoc]

/-- What a step consumes: the text before a tag and the tag. -/
theorem eq_append_of_readTag {text before body : List Char} {d : Delimiters} {tag : Tag}
    (found : Text.cut? d.opening.toList text = some (before, body))
    (read : readTag d body = .ok tag) :
    text = before ++ d.opening.toList ++ tag.consumed ++ tag.rest := by
  rw [Text.eq_append_of_cut?_eq_some found, List.append_assoc, List.append_assoc,
    ← eq_consumed_append_of_readTag read, List.append_assoc]

/-- Behind a tag the source goes on with the text after the tag. -/
theorem drop_stop_tagToken {source text before body : List Char} {d : Delimiters} {pos : Position}
    {tag : Tag} (hsource : source.drop pos.offset = text)
    (found : Text.cut? d.opening.toList text = some (before, body))
    (read : readTag d body = .ok tag) (margins : Option Margins) :
    source.drop (tagToken d pos before tag margins).stop = tag.rest := by
  rw [stop_tagToken, Nat.add_assoc, Nat.add_assoc, ← List.drop_drop, hsource,
    eq_append_of_readTag found read]
  simp only [List.append_assoc]
  rw [← List.drop_drop, List.drop_left, ← List.drop_drop, List.drop_left, List.drop_left]

/-- The source consists of what lies before the end of a tag and of the text after it. -/
theorem length_eq_stop_tagToken_add {source text before body : List Char} {d : Delimiters}
    {pos : Position} {tag : Tag} (hsource : source.drop pos.offset = text)
    (found : Text.cut? d.opening.toList text = some (before, body))
    (read : readTag d body = .ok tag) (hopening : d.opening.toList ≠ [])
    (margins : Option Margins) :
    source.length = (tagToken d pos before tag margins).stop + tag.rest.length := by
  have hlen := congrArg List.length (hsource.trans (eq_append_of_readTag found read))
  simp only [List.length_drop, List.length_append] at hlen
  have := List.length_pos_iff.2 hopening
  rw [stop_tagToken]
  omega

/-- Where the scan goes on, the source goes on with what is left. -/
theorem drop_offset_positionAfter {source text before body : List Char} {d : Delimiters}
    {pos : Position} {tag : Tag} (hsource : source.drop pos.offset = text)
    (found : Text.cut? d.opening.toList text = some (before, body))
    (read : readTag d body = .ok tag) :
    source.drop (positionAfter d pos before tag (marginsOf pos before tag)).offset =
      restAfter tag (marginsOf pos before tag) := by
  rw [offset_positionAfter, ← List.drop_drop, drop_stop_tagToken hsource found read,
    rest_eq_append_restAfter pos before tag, List.drop_left]

/-- A step of the scanner yields the text that is kept and the tag. -/
theorem tagTokens_eq (d : Delimiters) (pos : Position) (before : List Char) (tag : Tag)
    (margins : Option Margins) : tagTokens d pos before tag margins =
      textToken d pos (keptBefore before margins) ++ [tagToken d pos before tag margins] :=
  rfl

/-- The token of a stretch of text. -/
theorem mem_textToken_iff {d : Delimiters} {pos : Position} {cs : List Char} {t : Token} :
    t ∈ textToken d pos cs ↔ cs ≠ [] ∧
      t = { kind := .text, value := String.ofList cs, place := pos.place, start := pos.offset,
            stop := pos.offset + cs.length, delims := d, indent := "" } := by
  unfold textToken
  cases cs with
  | nil => simp
  | cons c cs => simp

/-- A stretch of text has no tags among its tokens. -/
theorem kind_of_mem_textToken {d : Delimiters} {pos : Position} {cs : List Char} {t : Token}
    (ht : t ∈ textToken d pos cs) : t.kind = .text := by
  obtain ⟨-, rfl⟩ := mem_textToken_iff.1 ht
  rfl

/-- A token of a step, or one behind it. -/
theorem mem_tagTokens_append_iff {d : Delimiters} {pos : Position} {before : List Char} {tag : Tag}
    {margins : Option Margins} {tokens : List Token} {t : Token} :
    t ∈ tagTokens d pos before tag margins ++ tokens ↔
      t ∈ textToken d pos (keptBefore before margins) ∨ t = tagToken d pos before tag margins ∨
        t ∈ tokens := by
  rw [tagTokens_eq, List.append_assoc, List.mem_append, List.mem_append, List.mem_singleton]

/-! ## Runs -/

theorem eq_ok_of_toOption_eq_some {ε α : Type} {x : Except ε α} {a : α}
    (h : x.toOption = some a) : x = .ok a := by
  cases x with
  | ok b => rw [Option.some.inj h]
  | error e => simp [Except.toOption] at h

/-- **A run of the scanner that ends well**: under the delimiters `d`, from the position `pos` on,
the text has these tokens. -/
inductive Scanned : Delimiters → Position → List Char → List Token → Prop
  /-- No opening delimiter is left. -/
  | last {d : Delimiters} {pos : Position} {text : List Char}
    (found : Text.cut? d.opening.toList text = none) : Scanned d pos text (textToken d pos text)
  /-- A tag is read, and the scan goes on behind its margins. -/
  | tag {d changed : Delimiters} {pos : Position} {text before body : List Char} {tag : Tag}
    {tokens : List Token} (found : Text.cut? d.opening.toList text = some (before, body))
    (read : readTag d body = .ok tag) (change : delimsAfter d tag = .ok changed)
    (rest : Scanned changed (positionAfter d pos before tag (marginsOf pos before tag))
      (restAfter tag (marginsOf pos before tag)) tokens) :
    Scanned d pos text (tagTokens d pos before tag (marginsOf pos before tag) ++ tokens)

/-- One step of the scanner. -/
theorem scan_eq (d : Delimiters) (pos : Position) (text : List Char) :
    scan d pos text =
      match Text.cut? d.opening.toList text with
      | none => .ok (textToken d pos text)
      | some (before, body) =>
        match readTag d body with
        | .error cause => .error ⟨cause, pos.advance before⟩
        | .ok tag =>
          match delimsAfter d tag with
          | .error cause => .error ⟨cause, pos.advance before⟩
          | .ok changed =>
            match scan changed (positionAfter d pos before tag (marginsOf pos before tag))
                (restAfter tag (marginsOf pos before tag)) with
            | .error e => .error e
            | .ok tokens =>
              .ok (tagTokens d pos before tag (marginsOf pos before tag) ++ tokens) := by
  rw [scan]
  split
  · next hfound => simp only [hfound]
  · next before body hfound =>
    simp only [hfound]
    split
    · next hread => simp only [hread]
    · next tag hread =>
      simp only [hread]
      rfl

/-- **The scanner returns exactly the tokens of its runs.**

**Proof sketch.** One direction follows the recursion of the scanner, the other one the run; in
each step both look at the same search, the same tag and the same delimiters. -/
theorem scan_eq_ok_iff {d : Delimiters} {pos : Position} {text : List Char}
    {tokens : List Token} : scan d pos text = .ok tokens ↔ Scanned d pos text tokens := by
  constructor
  · intro h
    induction d, pos, text using scan.induct generalizing tokens with
    | case1 d pos text hfound =>
      simp only [scan_eq d pos, hfound] at h
      obtain rfl := Except.ok.inj h
      exact .last hfound
    | case2 d pos text before body hfound cause hread =>
      simp only [scan_eq d pos, hfound, hread, reduceCtorEq] at h
    | case3 d pos text before body hfound tag hread cause hchange =>
      simp only [scan_eq d pos, hfound, hread, hchange, reduceCtorEq] at h
    | case4 d pos text before body hfound tag hread margins changed hchange e hrest =>
      simp only [scan_eq d pos, hfound, hread, hchange] at h
      rw [show marginsOf pos before tag = margins from rfl, hrest] at h
      simp at h
    | case5 d pos text before body hfound tag hread margins changed hchange rest hrest =>
      next ih =>
      simp only [scan_eq d pos, hfound, hread, hchange] at h
      rw [show marginsOf pos before tag = margins from rfl, hrest] at h
      obtain rfl := Except.ok.inj h
      exact .tag hfound hread hchange (ih hrest)
  · intro h
    induction h with
    | last hfound => simp only [scan_eq, hfound]
    | @tag d _ pos text _ _ _ _ hfound hread hchange _ ih =>
      simp only [scan_eq d pos text, hfound, hread, hchange, ih]

end Mustache
