import Mathlib.Logic.Function.Iterate
import Mustache.Proofs.Token.Run

/-!
# The scanner step by step

The scanner takes turns at three tasks: it looks for the next opening delimiter, reads the tag
behind it, and looks at the line around the tag. It knows the source only by offsets. Nothing is
asked of the delimiters that it starts with: they may be empty or alike, or hold blanks and equals
signs. An empty delimiter is found without anything being read, but every tag that is accepted has
a sigil or some content, so that the scanner comes forward whenever it has been through all three.

## Main definitions

* `Mustache.Scanner` — a scanner between two steps, and `Mustache.Scanner.Task`, what it does next.
* `Mustache.Scanner.step` — a step, after which it goes on or has ended.
* `Mustache.Scanner.Sound` — how far the source has been read, and what has come of it.

## Main results

* `Mustache.Scanner.Sound.advances` — a step leads to such a scanner again, nearer to the end.
* `Mustache.Scanner.sound_of_after`, `Mustache.Scanner.pending_lt_of_after` — the same for all steps
  together.
* `Mustache.Scanner.exists_after_eq_ended` — the scanner ends.

## Implementation notes

What carries the proofs is the offset up to which all text is accounted for. It is the offset
that has been read whenever the scanner looks for a tag, it stays while a tag is read, and it bounds
the number of tokens.
-/

namespace Mustache

/-! ## Steps -/

namespace Scanner

/-- What a scanner does next. -/
inductive Task where
  /-- It looks for the next opening delimiter. -/
  | text
  /-- It reads the tag whose opening delimiter begins at `start`. -/
  | tag (start : Nat)
  /-- It looks at the line around a tag. -/
  | standalone (tag : Token)
  deriving Inhabited

end Scanner

/-- **A scanner between two steps.** -/
structure Scanner where
  task : Scanner.Task
  /-- The delimiters in effect. -/
  delims : Delimiters
  /-- How far the source has been read. -/
  offset : Nat
  /-- Where the text begins that has no token yet. -/
  pending : Nat
  tokens : List Token
  deriving Inhabited

namespace Scanner

/-- A scanner that goes on, or what one has ended with. -/
inductive Turn where
  | on (s : Scanner)
  | ended (outcome : Except Misread (List Token))

variable (source : List Char)

/-- The position of an offset. -/
def positionAt (i : Nat) : Position := Position.start.advance (source.take i)

/-- The token for the text from one offset up to another. -/
def textBetween (d : Delimiters) (start stop : Nat) : List Token :=
  textToken d (positionAt source start) (Text.slice source start stop)

/-- Looks for the next opening delimiter. Without one the rest of the source is text. -/
def scanText (s : Scanner) : Turn :=
  match Text.cut? s.delims.opening.toList (source.drop s.offset) with
  | none => .ended (.ok (s.tokens ++ textBetween source s.delims s.pending source.length))
  | some (before, _) =>
    let start := s.offset + before.length
    .on { s with task := .tag start, offset := start + s.delims.opening.toList.length }

/-- Reads the tag whose opening delimiter begins at `start`. -/
def scanTag (s : Scanner) (start : Nat) : Turn :=
  match readTag s.delims (source.drop s.offset) with
  | .error cause => .ended (.error ⟨cause, positionAt source start⟩)
  | .ok tag =>
    let stop := s.offset + tag.consumed.length
    let token : Token :=
      { kind := tag.kind, value := String.ofList tag.value,
        place := (positionAt source start).place, start, stop, delims := s.delims, indent := "" }
    .on { s with task := .standalone token, offset := stop }

/-- Where the line of an offset begins. -/
def lineStart (i : Nat) : Nat := i - (Text.lastLine (source.take i)).length

/-- The blanks in front of a tag that has its line to itself, and where that line ends. The line
has to begin behind the previous tag, where the pending text begins. -/
def alone? (pending : Nat) (t : Token) : Option (List Char × Nat) :=
  let first := lineStart source t.start
  let leading := Text.slice source first t.start
  if t.kind.isInterpolation || first < pending || !leading.all Text.isMargin then none
  else (lineRest? (source.drop t.stop)).map fun parts => (leading, t.stop + parts.1.length)

/-- The delimiters in effect behind a tag. -/
def delimsBehind (d : Delimiters) (t : Token) : Except Malformation Delimiters :=
  if t.kind == .delimiterChange then
    match Delimiters.ofWords? t.value.toList with
    | some changed => .ok changed
    | none => .error (.invalidDelimiters t.value)
  else .ok d

/-- Looks at the line around a tag, and has the text in front of the tag and the tag join the
tokens. -/
def checkStandalone (s : Scanner) (t : Token) : Turn :=
  let found := alone? source s.pending t
  let leading := (found.map Prod.fst).getD []
  let offset := (found.map Prod.snd).getD s.offset
  let text := textBetween source s.delims s.pending (t.start - leading.length)
  let indent := if t.kind == .inclusion then String.ofList leading else ""
  match delimsBehind s.delims t with
  | .error cause => .ended (.error ⟨cause, positionAt source t.start⟩)
  | .ok delims =>
    .on { task := .text, delims, offset, pending := offset,
          tokens := s.tokens ++ text ++ [{ t with indent }] }

/-- **A step of the scanner.** -/
def step (s : Scanner) : Turn :=
  match s.task with
  | .text => scanText source s
  | .tag start => scanTag source s start
  | .standalone tag => checkStandalone source s tag

/-- What follows a turn; nothing follows an end. -/
def Turn.next : Turn → Turn
  | .on s => s.step source
  | .ended outcome => .ended outcome

/-- The scanner at the start of a source. -/
def initial (d : Delimiters) : Scanner :=
  { task := .text, delims := d, offset := 0, pending := 0, tokens := [] }

/-- The scanner after so many steps from the start of the source. -/
def after (d : Delimiters) (n : Nat) : Turn := (Turn.next source)^[n] (.on (initial d))

/-! ## What every step keeps -/

/-- **A scanner is within the source**, and all tokens stand in front of the pending text. -/
structure Sound (s : Scanner) : Prop where
  offset_le : s.offset ≤ source.length
  length_le : s.tokens.length ≤ s.pending
  task : match s.task with
    | .text => s.pending = s.offset
    | .tag start => s.pending ≤ start ∧ start ≤ s.offset
    | .standalone t => s.pending ≤ t.start ∧ t.start < t.stop ∧ t.stop = s.offset

/-- How many steps a scanner may still take: three for every character behind the pending text,
and those up to the next time that it looks for a tag. -/
def budget (s : Scanner) : Nat :=
  3 * (source.length - s.pending) +
    match s.task with
    | .text => 3
    | .tag _ => 2
    | .standalone _ => 1

variable {source} {s s' : Scanner}

/-- Text has at most one token, and none if there is no text. -/
theorem length_textBetween_le (source : List Char) (d : Delimiters) (start stop : Nat) :
    (textBetween source d start stop).length ≤ stop - start := by
  have hslice : (Text.slice source start stop).length ≤ stop - start := by
    rw [Text.slice, List.length_drop, List.length_take]
    omega
  unfold textBetween textToken
  split
  · exact Nat.zero_le _
  · next hne =>
    have hpos : 0 < (Text.slice source start stop).length :=
      List.length_pos_iff.2 (by simpa using hne)
    rw [List.length_singleton]
    omega

/-- A tag that has its line to itself is followed by the rest of the line, which lies within the
source. -/
theorem bounds_of_alone? {pending last : Nat} {leading : List Char} {t : Token}
    (h : alone? source pending t = some (leading, last)) (hstop : t.stop ≤ source.length) :
    t.stop ≤ last ∧ last ≤ source.length := by
  unfold alone? at h
  dsimp only at h
  split at h
  · simp at h
  · obtain ⟨⟨dropped, left⟩, hline, heq⟩ := Option.map_eq_some_iff.1 h
    obtain ⟨_, _, -, -, hrest, -⟩ := lineRest?_eq_some_iff.1 hline
    have hlength := congrArg List.length hrest
    rw [List.length_drop, List.length_append] at hlength
    have hlast : t.stop + dropped.length = last := (Prod.mk.inj heq).2
    omega

/-- What a step of a sound scanner leads to. -/
inductive Advances (source : List Char) (s : Scanner) : Turn → Prop
  /-- The scanner goes on with fewer steps to take. When it looks for a tag again it has come
  forward. -/
  | on {s' : Scanner} (sound : s'.Sound source) (le : s.pending ≤ s'.pending)
    (lt : s'.task = .text → s.pending < s'.pending) (budget : s'.budget source < s.budget source) :
    Advances source s (.on s')
  /-- The scanner ends with no more tokens than there are characters. -/
  | done {tokens : List Token} (le : tokens.length ≤ source.length) :
    Advances source s (.ended (.ok tokens))
  | failed (e : Misread) : Advances source s (.ended (.error e))

theorem Sound.advances_scanText (h : s.Sound source) (htask : s.task = .text) :
    Advances source s (scanText source s) := by
  have hpending : s.pending = s.offset := by simpa [htask] using h.task
  have hoffset := h.offset_le
  have hlength := h.length_le
  unfold scanText
  cases hcut : Text.cut? s.delims.opening.toList (source.drop s.offset) with
  | none =>
    refine .done ?_
    have htext := length_textBetween_le source s.delims s.pending source.length
    rw [List.length_append]
    omega
  | some parts =>
    obtain ⟨before, body⟩ := parts
    have hlen := Text.length_of_cut?_eq_some hcut
    rw [List.length_drop] at hlen
    refine .on ⟨?_, hlength, ?_⟩ (Nat.le_refl _) nofun ?_
    · dsimp only
      omega
    · exact ⟨by dsimp only; omega, Nat.le_add_right _ _⟩
    · simp only [budget, htask]
      omega

theorem Sound.advances_scanTag (h : s.Sound source) {start : Nat} (htask : s.task = .tag start) :
    Advances source s (scanTag source s start) := by
  obtain ⟨hpending, hstart⟩ : s.pending ≤ start ∧ start ≤ s.offset := by simpa [htask] using h.task
  have hoffset := h.offset_le
  unfold scanTag
  cases hread : readTag s.delims (source.drop s.offset) with
  | error cause => exact .failed _
  | ok tag =>
    -- The sigil or the content of the tag has been read, even if the delimiters are empty.
    have hlt := length_rest_of_readTag hread
    have hlen := congrArg List.length (eq_consumed_append_of_readTag hread)
    rw [List.length_append, List.length_drop] at hlen
    rw [List.length_drop] at hlt
    refine .on ⟨?_, h.length_le, ?_⟩ (Nat.le_refl _) nofun ?_
    · dsimp only
      omega
    · exact ⟨hpending, by dsimp only; omega, rfl⟩
    · simp only [budget, htask]
      omega

theorem Sound.advances_checkStandalone (h : s.Sound source) {t : Token}
    (htask : s.task = .standalone t) : Advances source s (checkStandalone source s t) := by
  obtain ⟨hpending, hspan, hstop⟩ : s.pending ≤ t.start ∧ t.start < t.stop ∧ t.stop = s.offset := by
    simpa [htask] using h.task
  have hoffset := h.offset_le
  have hlength := h.length_le
  have hbounds : t.stop ≤ ((alone? source s.pending t).map Prod.snd).getD s.offset ∧
      ((alone? source s.pending t).map Prod.snd).getD s.offset ≤ source.length := by
    cases hfound : alone? source s.pending t with
    | none => exact ⟨Nat.le_of_eq hstop, hoffset⟩
    | some found => exact bounds_of_alone? hfound (by omega)
  unfold checkStandalone
  dsimp only
  generalize ((alone? source s.pending t).map Prod.snd).getD s.offset = offset at hbounds ⊢
  generalize ((alone? source s.pending t).map Prod.fst).getD [] = leading
  cases delimsBehind s.delims t with
  | error cause => exact .failed _
  | ok delims =>
    have htext := length_textBetween_le source s.delims s.pending
      (t.start - leading.length)
    refine .on ⟨hbounds.2, ?_, rfl⟩ ?_ (fun _ => ?_) ?_
    · simp only [List.length_append, List.length_singleton]
      omega
    · dsimp only
      omega
    · dsimp only
      omega
    · simp only [budget, htask]
      omega

/-- **A step of a sound scanner comes nearer to the end.** -/
theorem Sound.advances (h : s.Sound source) : Advances source s (s.step source) := by
  unfold step
  cases htask : s.task with
  | text => exact h.advances_scanText htask
  | tag start => exact h.advances_scanTag htask
  | standalone t => exact h.advances_checkStandalone htask

/-! ## Runs -/

variable {d : Delimiters} {m n : Nat} {t : Scanner} {outcome : Except Misread (List Token)}

/-- A run takes its next step at its end. -/
theorem after_succ (source : List Char) (d : Delimiters) (n : Nat) :
    after source d (n + 1) = (after source d n).next source :=
  Function.iterate_succ_apply' _ _ _

/-- The end of a run. -/
theorem after_of_ended (h : after source d n = .ended outcome) (hle : n ≤ m) :
    after source d m = .ended outcome := by
  obtain ⟨k, rfl⟩ := Nat.exists_eq_add_of_le' hle
  rw [after, Function.iterate_add_apply, ← after, h]
  exact Function.iterate_fixed rfl k

/-- A scanner that goes on has come from one that went on. -/
theorem exists_of_after_succ (h : after source d (n + 1) = .on t) :
    ∃ s, after source d n = .on s ∧ s.step source = .on t := by
  rw [after_succ] at h
  cases hprev : after source d n with
  | on s =>
    rw [hprev] at h
    exact ⟨s, rfl, h⟩
  | ended outcome =>
    rw [hprev] at h
    nomatch h

/-- **A scanner stays sound**, and every step that it takes comes off its budget. -/
theorem sound_of_after (h : after source d n = .on t) :
    t.Sound source ∧ n + t.budget source ≤ 3 * source.length + 3 := by
  induction n generalizing t with
  | zero =>
    obtain rfl : initial d = t := Turn.on.inj h
    exact ⟨⟨Nat.zero_le _, Nat.le_refl 0, rfl⟩, by simp [budget, initial]⟩
  | succ n ih =>
    obtain ⟨s, hs, hstep⟩ := exists_of_after_succ h
    obtain ⟨hsound, hbudget⟩ := ih hs
    have hadvances := hsound.advances
    rw [hstep] at hadvances
    cases hadvances with
    | on hsound' _ _ hlt => exact ⟨hsound', by omega⟩

/-- **The pending text only moves on**, and it has moved on whenever the scanner looks for a tag
again. -/
theorem pending_lt_of_after (hs : after source d m = .on s) (ht : after source d n = .on t)
    (hlt : m < n) : s.pending ≤ t.pending ∧ (t.task = .text → s.pending < t.pending) := by
  induction n, hlt using Nat.le_induction generalizing t with
  | base =>
    obtain ⟨u, hu, hstep⟩ := exists_of_after_succ ht
    obtain rfl : s = u := Turn.on.inj (hs.symm.trans hu)
    have hadvances := (sound_of_after hs).1.advances
    rw [hstep] at hadvances
    cases hadvances with
    | on _ hle hlt _ => exact ⟨hle, hlt⟩
  | succ n _ ih =>
    obtain ⟨u, hu, hstep⟩ := exists_of_after_succ ht
    have hadvances := (sound_of_after hu).1.advances
    rw [hstep] at hadvances
    have hle' := (ih hu).1
    cases hadvances with
    | on _ hle hlt _ => exact ⟨Nat.le_trans hle' hle, fun h => Nat.lt_of_le_of_lt hle' (hlt h)⟩

/-- **The scanner ends** before its budget is used up. -/
theorem exists_after_eq_ended (source : List Char) (d : Delimiters) :
    ∃ outcome, after source d (3 * source.length + 3) = .ended outcome := by
  cases h : after source d (3 * source.length + 3) with
  | ended outcome => exact ⟨outcome, rfl⟩
  | on s =>
    have hle := (sound_of_after h).2
    have hpos : 0 < s.budget source := by
      unfold budget
      split <;> omega
    omega

/-- A scanner that ends well has no more tokens than there are characters. -/
theorem length_le_of_after {tokens : List Token} (h : after source d n = .ended (.ok tokens)) :
    tokens.length ≤ source.length := by
  induction n with
  | zero => nomatch h
  | succ n ih =>
    rw [after_succ] at h
    cases hprev : after source d n with
    | ended outcome =>
      rw [hprev] at h
      exact ih (hprev.trans h)
    | on s =>
      have hadvances := (sound_of_after hprev).1.advances
      rw [hprev] at h
      rw [show s.step source = .ended (.ok tokens) from h] at hadvances
      cases hadvances with
      | done hle => exact hle

end Scanner

end Mustache
