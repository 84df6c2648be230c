import Mathlib.Data.List.Induction
import Mustache.Proofs.Token.Decomposition

/-!
# Tags that the scanner finds

The scanner finds the tags of a source one after the other, until it finds one that it refuses or
no opening delimiter is left. Every error of the scanner is about such a tag, and so is every tag
among its tokens; both tell the line and the column in which the opening delimiter stands.

## Main definitions

* `Mustache.Finds` — the scanner finds a tag behind some part of the source.
* `Mustache.Refuses` — what follows an opening delimiter is refused.

## Main results

* `Mustache.Position.advance_start` — the line and the column behind a part of a source.
* `Mustache.scan_eq_error_iff` — the scanner fails exactly at a tag that it finds and refuses.
* `Mustache.Scanned.finds` — the tags among the tokens are found.
-/

namespace Mustache

/-! ## Places -/

namespace Text

/-- The last line goes on with what is put behind a text. -/
theorem lastLine_append_of_newline_not_mem (cs : List Char) {ds : List Char} (h : '\n' ∉ ds) :
    lastLine (cs ++ ds) = lastLine cs ++ ds := by
  have hall : ∀ c ∈ ds.reverse, (c != '\n') = true := fun c hc => by
    have hne : c ≠ '\n' := fun heq => h (heq ▸ List.mem_reverse.1 hc)
    simpa using hne
  unfold lastLine
  rw [List.reverse_append, List.takeWhile_append_of_pos hall, List.reverse_append,
    List.reverse_reverse]

/-- The last line is the one behind a newline, whatever stands in front of it. -/
theorem lastLine_append_of_newline_mem (cs : List Char) {ds : List Char} (h : '\n' ∈ ds) :
    lastLine (cs ++ ds) = lastLine ds := by
  obtain ⟨init, hinit⟩ := exists_eq_append_lastLine h
  rw [hinit, ← List.append_assoc, lastLine_append_newline, lastLine_append_newline]

end Text

/-- **The place behind a part of a source**: lines are counted by the newlines, and the column by
what follows the last of them. -/
theorem Position.advance_start (cs : List Char) :
    Position.start.advance cs = ⟨cs.length, 1 + cs.count '\n', (Text.lastLine cs).length⟩ := by
  induction cs using List.reverseRecOn with
  | nil => rfl
  | append_singleton cs c ih =>
    rw [Position.advance_append, ih]
    show Position.next _ c = _
    by_cases hc : c = '\n'
    · subst hc
      rw [Text.lastLine_append_newline, Position.next, if_pos (by simp), List.length_append,
        List.count_append]
      rfl
    · rw [Text.lastLine_append_of_newline_not_mem cs (by simpa using Ne.symm hc), Position.next,
        if_neg (by simpa using hc), List.count_append, List.count_singleton,
        if_neg (by simpa using hc)]
      simp

/-- The position behind a tag and its margins is reached by going over them. -/
theorem advance_append_eq_positionAfter (d : Delimiters) (pos : Position) (before front : List Char)
    (tag : Tag) (margins : Option Margins) :
    pos.advance (before ++ (d.opening.toList ++ tag.consumed ++ droppedAfter margins) ++ front) =
      (positionAfter d pos before tag margins).advance front := by
  rw [Position.advance_append, Position.advance_append]
  rfl

/-! ## Tags that are found -/

/-- **The scanner finds a tag**: starting at `pos` under the first pair, it reads the tags in
`front` and then finds the opening delimiter of the pair `d'`, which is in effect there. It has to
read the tag from `body`, which is all that follows. -/
inductive Finds : Delimiters → Position → List Char → List Char → Delimiters → List Char → Prop
  | here {d : Delimiters} {pos : Position} {text before body : List Char}
    (found : Text.cut? d.opening.toList text = some (before, body)) :
    Finds d pos text before d body
  | later {d changed d' : Delimiters} {pos : Position} {text before rest front body : List Char}
    {tag : Tag} (found : Text.cut? d.opening.toList text = some (before, rest))
    (read : readTag d rest = .ok tag) (change : delimsAfter d tag = .ok changed)
    (next : Finds changed (positionAfter d pos before tag (marginsOf pos before tag))
      (restAfter tag (marginsOf pos before tag)) front d' body) :
    Finds d pos text
      (before ++ (d.opening.toList ++ tag.consumed ++ droppedAfter (marginsOf pos before tag)) ++
        front) d' body

/-- What follows an opening delimiter is refused: there is no tag, or one that changes the
delimiters to something else than two of them. -/
inductive Refuses (d : Delimiters) (body : List Char) (cause : Malformation) : Prop
  | unread (read : readTag d body = .error cause)
  | unchanged {tag : Tag} (read : readTag d body = .ok tag)
    (change : delimsAfter d tag = .error cause)

namespace Finds

variable {d d' : Delimiters} {pos : Position} {text front body : List Char}

/-- The opening delimiter stands between what is in front of the tag and what is to be read. -/
theorem eq_append (h : Finds d pos text front d' body) :
    text = front ++ d'.opening.toList ++ body := by
  induction h with
  | here found => exact Text.eq_append_of_cut?_eq_some found
  | @later d _ _ pos text before rest _ _ tag found read _ _ ih =>
    rw [eq_append_of_readTag found read, rest_eq_append_restAfter pos before tag, ih]
    simp only [List.append_assoc]

/-- The pair in effect at a tag is plain, if the first one is. -/
theorem isPlain (h : Finds d pos text front d' body) (hd : d.IsPlain) : d'.IsPlain := by
  induction h with
  | here _ => exact hd
  | later _ _ change _ ih => exact ih (Delimiters.isPlain_of_delimsAfter change hd)

/-- A tag that is found and refused makes the scanner fail at its opening delimiter. -/
theorem scan_eq_error (h : Finds d pos text front d' body) {cause : Malformation}
    (hrefuses : Refuses d' body cause) :
    scan d pos text = .error ⟨cause, pos.advance front⟩ := by
  induction h with
  | here found =>
    cases hrefuses with
    | unread read => simp only [scan_eq, found, read]
    | unchanged read change => simp only [scan_eq, found, read, change]
  | @later d _ _ pos text before rest front _ tag found read change _ ih =>
    simp only [scan_eq d pos text, found, read, change, ih hrefuses,
      advance_append_eq_positionAfter]

end Finds

/-- **The scanner fails exactly at a tag that it finds and refuses**, and it fails at the opening
delimiter of the tag.

**Proof sketch.** Induction along the recursion of the scanner: it fails at the tag that it finds
next, or behind it. -/
theorem scan_eq_error_iff {d : Delimiters} {pos : Position} {text : List Char} {e : Misread} :
    scan d pos text = .error e ↔ ∃ front d' body, Finds d pos text front d' body ∧
      Refuses d' body e.cause ∧ e.spot = pos.advance front := by
  constructor
  · intro h
    induction d, pos, text using scan.induct with
    | case1 d pos text found =>
      simp only [scan_eq d pos, found, reduceCtorEq] at h
    | case2 d pos text before body found cause read =>
      simp only [scan_eq d pos, found, read, Except.error.injEq] at h
      subst h
      exact ⟨before, d, body, .here found, .unread read, rfl⟩
    | case3 d pos text before body found tag read cause change =>
      simp only [scan_eq d pos, found, read, change, Except.error.injEq] at h
      subst h
      exact ⟨before, d, body, .here found, .unchanged read change, rfl⟩
    | case4 d pos text before body found tag read margins changed change e' hrest ih =>
      simp only [scan_eq d pos, found, read, change] at h
      rw [show marginsOf pos before tag = margins from rfl, hrest] at h
      obtain rfl := Except.error.inj h
      obtain ⟨front, d', body', hfinds, hrefuses, hspot⟩ := ih hrest
      refine ⟨_, d', body', .later found read change hfinds, hrefuses, ?_⟩
      exact hspot.trans (advance_append_eq_positionAfter ..).symm
    | case5 d pos text before body found tag read margins changed change tokens hrest =>
      simp only [scan_eq d pos, found, read, change] at h
      rw [show marginsOf pos before tag = margins from rfl, hrest] at h
      simp at h
  · rintro ⟨front, d', body, hfinds, hrefuses, hspot⟩
    rw [hfinds.scan_eq_error hrefuses, ← hspot]

/-- **The tags among the tokens are found**, and stand where their tokens say. -/
theorem Scanned.finds {d : Delimiters} {pos : Position} {text : List Char} {tokens : List Token}
    (h : Scanned d pos text tokens) {t : Token} (ht : t ∈ tokens) (htag : t.kind ≠ .text) :
    ∃ front body tag, Finds d pos text front t.delims body ∧ readTag t.delims body = .ok tag ∧
      t.value = String.ofList tag.value ∧ t.place = (pos.advance front).place ∧
      t.start = (pos.advance front).offset := by
  induction h with
  | last _ => exact absurd (kind_of_mem_textToken ht) htag
  | @tag d _ pos text before body tag _ found read change _ ih =>
    rcases mem_tagTokens_append_iff.1 ht with ht | rfl | ht
    · exact absurd (kind_of_mem_textToken ht) htag
    · exact ⟨before, body, tag, .here found, read, rfl, rfl, rfl⟩
    · obtain ⟨front, body', tag', hfinds, hread, hvalue, hplace, hstart⟩ := ih ht
      refine ⟨_, body', tag', .later found read change hfinds, hread, hvalue, ?_, ?_⟩
      · rw [hplace, advance_append_eq_positionAfter]
      · rw [hstart, advance_append_eq_positionAfter]

end Mustache
