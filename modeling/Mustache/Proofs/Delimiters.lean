import Mustache.Token.Scan

/-!
# Plain delimiters

Delimiters that are written in a delimiter change are words: they are not empty and hold no blank.
So if a scan starts under such a pair, every pair that comes into effect is of this kind.

## Main definitions

* `Mustache.Delimiters.IsPlain` — both delimiters are words.

## Main results

* `Mustache.Text.isWord_of_mem_words` — what a text is split into at its blanks.
* `Mustache.Delimiters.isPlain_of_delimsAfter` — a tag leaves plain delimiters behind.
-/

namespace Mustache

namespace Text

/-- A word: some characters, none of them blank. -/
def IsWord (w : List Char) : Prop := w ≠ [] ∧ ∀ c ∈ w, isBlank c = false

/-- Splitting at blanks gives words, whatever part of a word has been read before. -/
theorem isWord_of_mem_wordsFrom {current cs w : List Char}
    (hcurrent : ∀ c ∈ current, isBlank c = false) (hw : w ∈ wordsFrom current cs) : IsWord w := by
  induction cs generalizing current with
  | nil =>
    rw [wordsFrom] at hw
    split at hw
    · simp at hw
    · next hne =>
      obtain rfl := List.mem_singleton.1 hw
      exact ⟨by simpa using hne, by simpa using hcurrent⟩
  | cons c cs ih =>
    rw [wordsFrom] at hw
    split at hw
    · split at hw
      · exact ih (by simp) hw
      · next hne =>
        rcases List.mem_cons.1 hw with rfl | hw
        · exact ⟨by simpa using hne, by simpa using hcurrent⟩
        · exact ih (by simp) hw
    · next hc =>
      refine ih (fun d hd => ?_) hw
      rcases List.mem_cons.1 hd with rfl | hd
      · simpa using hc
      · exact hcurrent d hd

/-- Splitting a text at its blanks gives words. -/
theorem isWord_of_mem_words {cs w : List Char} (hw : w ∈ words cs) : IsWord w :=
  isWord_of_mem_wordsFrom (by simp) hw

end Text

namespace Delimiters

/-- Both delimiters are words. -/
structure IsPlain (d : Delimiters) : Prop where
  opening : Text.IsWord d.opening.toList
  closing : Text.IsWord d.closing.toList

/-- The pair that a template starts with is plain. -/
theorem isPlain_usual : usual.IsPlain := by
  refine ⟨⟨by decide, fun c hc => ?_⟩, ⟨by decide, fun c hc => ?_⟩⟩
  · obtain rfl : c = '{' := by simpa [usual] using hc
    rfl
  · obtain rfl : c = '}' := by simpa [usual] using hc
    rfl

/-- The pair that is written in a delimiter change: two words without an equals sign. -/
theorem ofWords?_eq_some_iff {content : List Char} {d : Delimiters} :
    ofWords? content = some d ↔ ∃ first second : List Char,
      Text.words content = [first, second] ∧ '=' ∉ first ∧ '=' ∉ second ∧
      d = ⟨String.ofList first, String.ofList second⟩ := by
  unfold ofWords?
  constructor
  · intro h
    split at h
    · next first second hwords =>
      split at h
      · simp at h
      · next heq =>
        simp only [List.contains_iff_mem, Bool.or_eq_true, not_or] at heq
        exact ⟨first, second, hwords, heq.1, heq.2, (Option.some.inj h).symm⟩
    · simp at h
  · rintro ⟨first, second, hwords, h1, h2, rfl⟩
    simp [hwords, h1, h2]

/-- Words make a plain pair. -/
theorem isPlain_of_ofWords? {content : List Char} {d : Delimiters}
    (h : ofWords? content = some d) : d.IsPlain := by
  obtain ⟨first, second, hwords, -, -, rfl⟩ := ofWords?_eq_some_iff.1 h
  have hmem : ∀ w ∈ [first, second], Text.IsWord w := by
    rw [← hwords]
    exact fun w hw => Text.isWord_of_mem_words hw
  refine ⟨?_, ?_⟩
  · rw [String.toList_ofList]
    exact hmem first (by simp)
  · rw [String.toList_ofList]
    exact hmem second (by simp)

/-- The delimiters after a tag: those of its two words if it changes them, else those before. -/
theorem delimsAfter_eq_ok_iff {d changed : Delimiters} {tag : Tag} :
    delimsAfter d tag = .ok changed ↔
      tag.kind = .delimiterChange ∧ ofWords? tag.value = some changed ∨
      tag.kind ≠ .delimiterChange ∧ changed = d := by
  unfold delimsAfter
  by_cases hk : tag.kind = .delimiterChange
  · rw [if_pos (by simpa using hk)]
    cases hw : ofWords? tag.value with
    | none => simp [hk]
    | some d' => simp [hk]
  · rw [if_neg (by simpa using hk)]
    simp [hk, eq_comm]

/-- A tag leaves plain delimiters behind. -/
theorem isPlain_of_delimsAfter {d changed : Delimiters} {tag : Tag}
    (h : delimsAfter d tag = .ok changed) (hd : d.IsPlain) : changed.IsPlain := by
  rcases delimsAfter_eq_ok_iff.1 h with ⟨-, hw⟩ | ⟨-, rfl⟩
  · exact isPlain_of_ofWords? hw
  · exact hd

/-- A tag does not leave an empty opening delimiter behind, unless it was empty before. -/
theorem opening_ne_nil_of_delimsAfter {d changed : Delimiters} {tag : Tag}
    (h : delimsAfter d tag = .ok changed) (hd : d.opening.toList ≠ []) :
    changed.opening.toList ≠ [] := by
  rcases delimsAfter_eq_ok_iff.1 h with ⟨-, hw⟩ | ⟨-, rfl⟩
  · exact (isPlain_of_ofWords? hw).opening.1
  · exact hd

end Delimiters

end Mustache
