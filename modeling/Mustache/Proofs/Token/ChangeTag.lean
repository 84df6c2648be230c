import Mustache.Proofs.Token.Boundary

/-!
# Delimiter changes that are written out

A text that is to be scanned under other delimiters than the usual ones is put behind a line with
a delimiter change. This module shows that the line does what it is meant to do: the scanner reads
from it the very pair that was written, drops the line, and goes on with the text as if the text
stood alone under this pair.

## Main definitions

* `Mustache.Delimiters.Written` — the usual pair, and the pairs that a delimiter change can bring
  into effect.
* `Mustache.Delimiters.lead`, `Mustache.Delimiters.leadTokens` — the line for a pair and its tokens.

## Main results

* `Mustache.Scanned.written` — the delimiters of tokens are of this kind.
* `Mustache.readTag_change` — the pair that was written is read.
* `Mustache.scanned_lead_append_iff` — the run over a text behind the line.
-/

namespace Mustache

/-! ## Words that are written out -/

namespace Text

/-- A word that is read is added to what has been read before. -/
theorem wordsFrom_append {w : List Char} (hw : ∀ c ∈ w, isBlank c = false)
    (current rest : List Char) :
    wordsFrom current (w ++ rest) = wordsFrom (w.reverse ++ current) rest := by
  induction w generalizing current with
  | nil => rfl
  | cons c w ih =>
    rw [List.forall_mem_cons] at hw
    rw [List.cons_append, wordsFrom, if_neg (by simp [hw.1]), ih hw.2, List.reverse_cons,
      List.append_assoc, List.singleton_append]

/-- Two words with a blank between them are read as these two words. -/
theorem words_pair {first second : List Char} (h₁ : IsWord first) (h₂ : IsWord second) :
    words (first ++ ' ' :: second) = [first, second] := by
  have hspace : isBlank ' ' = true := by decide
  have hne₁ : first.reverse.isEmpty = false := by simp [h₁.1]
  have hne₂ : second.reverse.isEmpty = false := by simp [h₂.1]
  rw [words, wordsFrom_append h₁.2, List.append_nil, wordsFrom, if_pos hspace, hne₁]
  rw [← List.append_nil second, wordsFrom_append h₂.2, wordsFrom, List.append_nil, hne₂]
  simp

/-- A text that neither starts nor ends with a blank is not trimmed. -/
theorem trim_eq_self {cs : List Char} (hfirst : ∀ c ∈ cs.head?, isBlank c = false)
    (hlast : ∀ c ∈ cs.getLast?, isBlank c = false) : trim cs = cs := by
  have hdrop (ds : List Char) (h : ∀ c ∈ ds.head?, isBlank c = false) :
      ds.dropWhile isBlank = ds := by
    cases ds with
    | nil => rfl
    | cons d ds => exact List.dropWhile_cons_of_neg (by simp [h d rfl])
  unfold trim
  rw [hdrop cs hfirst, hdrop cs.reverse (by rwa [List.head?_reverse]), List.reverse_reverse]

/-- Two words with a blank between them are not trimmed. -/
theorem trim_pair {first second : List Char} (h₁ : IsWord first) (h₂ : IsWord second) :
    trim (first ++ ' ' :: second) = first ++ ' ' :: second := by
  refine trim_eq_self (fun c hc => h₁.2 c ?_) fun c hc => h₂.2 c ?_
  · rw [List.head?_append_of_ne_nil _ h₁.1] at hc
    exact List.mem_of_mem_head? hc
  · rw [List.getLast?_append, List.getLast?_cons_of_ne_nil h₂.1] at hc
    cases hs : second.getLast? with
    | none => exact absurd (List.getLast?_eq_none_iff.1 hs) h₂.1
    | some d =>
      rw [hs, Option.some_or, Option.mem_some_iff] at hc
      exact hc ▸ List.mem_of_getLast? hs

end Text

/-! ## Pairs that are written out -/

namespace Delimiters

/-- The usual pair, or a pair that a delimiter change can bring into effect: two words without an
equals sign. -/
def Written (d : Delimiters) : Prop := d = usual ∨ ∃ content, ofWords? content = some d

theorem written_usual : usual.Written := .inl rfl

/-- What a delimiter change can bring into effect are two words without an equals sign. -/
theorem written_iff {d : Delimiters} : d.Written ↔ d = usual ∨
    d.IsPlain ∧ '=' ∉ d.opening.toList ∧ '=' ∉ d.closing.toList := by
  refine or_congr_right ⟨?_, ?_⟩
  · rintro ⟨content, h⟩
    have hplain := isPlain_of_ofWords? h
    obtain ⟨first, second, -, h₁, h₂, rfl⟩ := ofWords?_eq_some_iff.1 h
    refine ⟨hplain, ?_, ?_⟩
    · rwa [String.toList_ofList]
    · rwa [String.toList_ofList]
  · rintro ⟨hplain, h₁, h₂⟩
    refine ⟨d.opening.toList ++ ' ' :: d.closing.toList, ofWords?_eq_some_iff.2
      ⟨_, _, Text.words_pair hplain.opening hplain.closing, h₁, h₂, ?_⟩⟩
    rw [String.ofList_toList, String.ofList_toList]

theorem Written.isPlain {d : Delimiters} (h : d.Written) : d.IsPlain := by
  rcases written_iff.1 h with rfl | ⟨hplain, -⟩
  · exact isPlain_usual
  · exact hplain

/-- A tag leaves a pair behind that is written. -/
theorem written_of_delimsAfter {d changed : Delimiters} {tag : Tag}
    (h : delimsAfter d tag = .ok changed) (hd : d.Written) : changed.Written := by
  rcases delimsAfter_eq_ok_iff.1 h with ⟨-, hw⟩ | ⟨-, rfl⟩
  · exact .inr ⟨_, hw⟩
  · exact hd

/-! ## The line in front of a text -/

/-- What stands between the equals signs of the delimiter change for a pair. -/
def content (d : Delimiters) : List Char := d.opening.toList ++ ' ' :: d.closing.toList

/-- The line that brings the pair into effect; none is needed for the usual pair. -/
def lead (d : Delimiters) : List Char :=
  match d.changeTag? with
  | none => []
  | some tag => tag.toList ++ ['\n']

/-- How many lines are put in front of a text. -/
def leadLines (d : Delimiters) : Nat := if d = usual then 0 else 1

/-- The tokens of the line that brings the pair into effect. -/
def leadTokens (d : Delimiters) : List Token :=
  if d = usual then []
  else
    [{ kind := .delimiterChange, value := String.ofList d.content, place := Position.start.place,
       start := 0, stop := d.lead.length - 1, delims := usual, indent := "" }]

theorem lead_usual : usual.lead = [] := by
  rw [lead, changeTag?, if_pos rfl]

/-- The line for another pair than the usual one. -/
theorem lead_eq {d : Delimiters} (hd : d ≠ usual) :
    d.lead = usual.opening.toList ++
      ('=' :: (d.content ++ '=' :: (usual.closing.toList ++ ['\n']))) := by
  rw [lead, changeTag?, if_neg hd]
  simp [content]

end Delimiters

/-! ## Reading the line -/

/-- The delimiter change for a pair, with what follows it. -/
def Delimiters.changeFor (d : Delimiters) (rest : List Char) : Tag :=
  { kind := .delimiterChange, value := d.content,
    consumed := '=' :: (d.content ++ '=' :: usual.closing.toList), rest }

/-- **The pair that was written is read**: the first equals sign behind the sigil is the one that
was put behind the pair, since the pair has none. -/
theorem readTag_change {d : Delimiters} (hd : d.IsPlain) (h₁ : '=' ∉ d.opening.toList)
    (h₂ : '=' ∉ d.closing.toList) (rest : List Char) :
    readTag .usual ('=' :: (d.content ++ '=' :: (Delimiters.usual.closing.toList ++ rest))) =
      .ok (d.changeFor rest) := by
  have hnone : '=' ∉ d.content := by simp [Delimiters.content, h₁, h₂]
  refine readTag_eq_ok_iff.2 ⟨['='], d.content, .char (by simp [sigils, Delimiters.changeFor]),
    ?_, ?_, ?_, ?_, ?_⟩
  · simp [closerOf, Delimiters.changeFor]
  · intro i hi hocc
    rw [List.length_singleton, List.drop_one, List.tail_cons] at hocc
    obtain ⟨rest', hrest'⟩ := hocc
    have hfirst : (List.drop i (d.content ++
        '=' :: (Delimiters.usual.closing.toList ++ rest))).head? = some '=' := by
      rw [← hrest']
      rfl
    rw [List.head?_drop, List.getElem?_append_left hi] at hfirst
    exact hnone (List.mem_of_getElem? hfirst)
  · exact (Text.trim_pair hd.opening hd.closing).symm
  · simp [closerOf, Delimiters.changeFor]
  · intro _
    rfl

/-- Without a newline one stays on the line. -/
theorem Position.line_advance_of_not_mem {cs : List Char} (h : '\n' ∉ cs) (p : Position) :
    (p.advance cs).line = p.line := by
  induction cs generalizing p with
  | nil => rfl
  | cons c cs ih =>
    rw [List.mem_cons, not_or] at h
    have hnext : (p.next c).line = p.line := by
      rw [next, if_neg (by simpa using Ne.symm h.1)]
    show ((p.next c).advance cs).line = p.line
    rw [ih h.2, hnext]

/-- Behind the line that brings a pair into effect the second line starts. -/
theorem Delimiters.advance_lead {d : Delimiters} (hd : d.IsPlain) (hother : d ≠ usual) :
    Position.start.advance d.lead = Position.start.shift d.lead.length 1 := by
  have hnone : '\n' ∉ usual.opening.toList ++
      ('=' :: (d.content ++ '=' :: usual.closing.toList)) := by
    have h₁ : '\n' ∉ d.opening.toList := fun h => absurd (hd.opening.2 _ h) (by decide)
    have h₂ : '\n' ∉ d.closing.toList := fun h => absurd (hd.closing.2 _ h) (by decide)
    simp [content, usual, h₁, h₂]
  have hlead : d.lead = usual.opening.toList ++
      ('=' :: (d.content ++ '=' :: usual.closing.toList)) ++ ['\n'] := by
    rw [lead_eq hother]
    simp
  have hline : (Position.start.advance d.lead).line = 2 := by
    rw [hlead, Position.advance_append]
    show (Position.next _ '\n').line = 2
    rw [Position.next, if_pos (by simp), Position.line_advance_of_not_mem hnone]
    rfl
  have hoffset := Position.offset_advance .start d.lead
  have hcolumn := (Position.column_advance_eq_zero_iff .start d.lead).2
    (.inr (by rw [hlead, List.getLast?_append]; rfl))
  generalize Position.start.advance d.lead = p at *
  obtain ⟨offset, line, column⟩ := p
  simp only [Position.start, Position.shift, Position.mk.injEq] at *
  omega

section

variable {d : Delimiters} (hd : d.IsPlain) (h₁ : '=' ∉ d.opening.toList)
  (h₂ : '=' ∉ d.closing.toList) (hother : d ≠ .usual)

/-- Nothing but the delimiter change stands on the line. -/
theorem marginsOf_change (d : Delimiters) (text : List Char) :
    marginsOf .start [] (d.changeFor ('\n' :: text)) = some ⟨[], ['\n'], text⟩ :=
  standalone?_eq_some_iff.2 ⟨rfl, .inl rfl, rfl, by simp,
    lineRest?_eq_some_iff.2 ⟨[], ['\n'], by simp, rfl, rfl, .inl rfl⟩⟩

include hother in
theorem tagTokens_change (text : List Char) :
    tagTokens .usual .start [] (d.changeFor ('\n' :: text))
      (marginsOf .start [] (d.changeFor ('\n' :: text))) = d.leadTokens := by
  have htwo : "\x7b\x7b".length = 2 := rfl
  rw [marginsOf_change, Delimiters.leadTokens, if_neg hother, tagTokens, Delimiters.lead_eq hother]
  simp [textToken, Delimiters.changeFor, Position.start, Position.advance, Delimiters.usual,
    Position.place]
  omega

include hd hother in
theorem positionAfter_change (text : List Char) :
    positionAfter .usual .start [] (d.changeFor ('\n' :: text))
      (marginsOf .start [] (d.changeFor ('\n' :: text))) =
        Position.start.shift d.lead.length 1 := by
  rw [← Delimiters.advance_lead hd hother, marginsOf_change, Delimiters.lead_eq hother]
  simp [positionAfter, Delimiters.changeFor, Position.advance]

include hd h₁ h₂ hother in
/-- The scanner finds the line, and drops it. -/
theorem scanned_change_iff {text : List Char} {tokens : List Token} :
    Scanned .usual .start (d.lead ++ text) tokens ↔ ∃ rest,
      Scanned d (Position.start.shift d.lead.length 1) text rest ∧
        tokens = d.leadTokens ++ rest := by
  have hfound : Text.cut? Delimiters.usual.opening.toList (d.lead ++ text) = some ([],
      '=' :: (d.content ++ '=' :: (Delimiters.usual.closing.toList ++ '\n' :: text))) := by
    rw [Delimiters.lead_eq hother]
    exact Text.cut?_eq_some_iff.2 ⟨by simp, by simp⟩
  have hread := readTag_change hd h₁ h₂ ('\n' :: text)
  have hchange : delimsAfter .usual (d.changeFor ('\n' :: text)) = .ok d := by
    refine Delimiters.delimsAfter_eq_ok_iff.2 (.inl ⟨rfl, Delimiters.ofWords?_eq_some_iff.2
      ⟨_, _, Text.words_pair hd.opening hd.closing, h₁, h₂, ?_⟩⟩)
    rw [String.ofList_toList, String.ofList_toList]
  have hrest : restAfter (d.changeFor ('\n' :: text))
      (marginsOf .start [] (d.changeFor ('\n' :: text))) = text := by
    rw [marginsOf_change]
    rfl
  have htokens := tagTokens_change hother text
  have hposition := positionAfter_change hd hother text
  constructor
  · intro h
    rw [← scan_eq_ok_iff, scan_eq] at h
    simp only [hfound, hread, hchange, hposition, hrest, htokens] at h
    cases hscan : scan d (Position.start.shift d.lead.length 1) text with
    | error e => simp [hscan] at h
    | ok rest =>
      rw [hscan] at h
      exact ⟨rest, scan_eq_ok_iff.1 hscan, (Except.ok.inj h).symm⟩
  · rintro ⟨rest, hscan, rfl⟩
    rw [← htokens]
    refine .tag hfound hread hchange ?_
    rw [hposition, hrest]
    exact hscan

end

/-! ## Runs further on -/

/-- A run further on is one from the start. -/
theorem Scanned.exists_of_shift {d : Delimiters} {p : Position} {k l : Nat} {text : List Char}
    {tokens : List Token} (h : Scanned d (p.shift k l) text tokens) :
    ∃ tokens', Scanned d p text tokens' ∧ tokens = tokens'.map (Token.shift k l) := by
  generalize hq : p.shift k l = q at h
  induction h generalizing p with
  | @last d q text found =>
    subst hq
    exact ⟨_, .last found, textToken_shift k l d p text⟩
  | @tag d changed q text before body tag tokens found read change _ ih =>
    subst hq
    obtain ⟨tokens', htokens', rfl⟩ := ih (positionAfter_shift k l d p before tag _).symm
    refine ⟨_, .tag found read change htokens', ?_⟩
    rw [List.map_append, tagTokens_eq, tagTokens_eq, List.map_append, ← textToken_shift,
      List.map_singleton, ← tagToken_shift]
    rfl

theorem Token.shift_zero : Token.shift 0 0 = id := rfl

/-- **A text behind the line that brings a pair into effect** has the tokens of the line, and then
those that it has on its own under this pair, some characters and lines further on. -/
theorem scanned_lead_append_iff {d : Delimiters} (hd : d.Written) {text : List Char}
    {tokens : List Token} :
    Scanned .usual .start (d.lead ++ text) tokens ↔ ∃ rest, Scanned d .start text rest ∧
      tokens = d.leadTokens ++ rest.map (Token.shift d.lead.length d.leadLines) := by
  rcases Delimiters.written_iff.1 hd with rfl | ⟨hplain, h₁, h₂⟩
  · simp [Delimiters.lead_usual, Delimiters.leadTokens, Delimiters.leadLines, Token.shift_zero]
  · by_cases hother : d = .usual
    · subst hother
      simp [Delimiters.lead_usual, Delimiters.leadTokens, Delimiters.leadLines, Token.shift_zero]
    · rw [scanned_change_iff hplain h₁ h₂ hother, Delimiters.leadLines, if_neg hother]
      constructor
      · rintro ⟨rest, hrest, rfl⟩
        obtain ⟨rest', hrest', rfl⟩ := hrest.exists_of_shift
        exact ⟨rest', hrest', rfl⟩
      · rintro ⟨rest, hrest, rfl⟩
        exact ⟨_, hrest.shift _ _, rfl⟩

/-! ## Delimiters of tokens -/

/-- The delimiters of tokens are written, if those are with which the scan starts. -/
theorem Scanned.written {d : Delimiters} {pos : Position} {text : List Char}
    {tokens : List Token} (h : Scanned d pos text tokens) (hd : d.Written) :
    ∀ t ∈ tokens, t.delims.Written := by
  induction h with
  | last _ =>
    intro t ht
    obtain ⟨-, rfl⟩ := mem_textToken_iff.1 ht
    exact hd
  | @tag d changed pos text before body tag tokens found read change _ ih =>
    intro t ht
    rcases mem_tagTokens_append_iff.1 ht with ht | rfl | ht
    · obtain ⟨-, rfl⟩ := mem_textToken_iff.1 ht
      exact hd
    · exact hd
    · exact ih (Delimiters.written_of_delimsAfter change hd) t ht

end Mustache
