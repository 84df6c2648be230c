import Mathlib.Tactic.Common
import Mustache.Escape
import Mustache.Proofs.Text.Indent

/-!
# Text without markup

Escaped text can stand where markup is read: it holds no angle bracket and no double quote, and
every ampersand in it begins a character reference. Such texts may be put one behind the other, and
their lines may be indented.

## Main definitions

* `Mustache.IsReference` — the references that escaping makes use of.
* `Mustache.IsMarkupFree` — texts in which nothing else begins with a character of markup.
* `Mustache.Escaped` — the same by the characters and references that a text is made of.

## Main results

* `Mustache.Escaped.isMarkupFree` — what is made of these holds no markup.
* `Mustache.Escaped.append`, `Mustache.Escaped.indentFrom` — texts together, and indented.
* `Mustache.escaped_escape` — escaping for a charset that has ASCII.
-/

namespace Mustache

/-- A character with a meaning in markup. -/
def isMarkup (c : Char) : Bool := c == '<' || c == '>' || c == '"' || c == '&'

/-- **A character reference**: by one of four names, or by a decimal number. -/
inductive IsReference : List Char → Prop
  | named (name : String) (known : name ∈ ["amp", "lt", "gt", "quot"]) :
    IsReference ('&' :: (name.toList ++ [';']))
  | numbered {digits : List Char} (nonempty : digits ≠ [])
    (decimal : ∀ d ∈ digits, d.isDigit = true) : IsReference ('&' :: '#' :: (digits ++ [';']))

/-- **A text without markup**: no angle bracket and no double quote, and no ampersand that does not
begin a character reference. -/
structure IsMarkupFree (cs : List Char) : Prop where
  less : '<' ∉ cs
  greater : '>' ∉ cs
  quote : '"' ∉ cs
  ampersand : ∀ before after, cs = before ++ '&' :: after →
    ∃ r rest, IsReference r ∧ '&' :: after = r ++ rest

theorem IsMarkupFree.ne_of_mem {cs : List Char} (h : IsMarkupFree cs) {c : Char} (hc : c ∈ cs) :
    c ≠ '<' ∧ c ≠ '>' ∧ c ≠ '"' :=
  ⟨fun heq => h.less (heq ▸ hc), fun heq => h.greater (heq ▸ hc), fun heq => h.quote (heq ▸ hc)⟩

/-! ## What escaped text is made of -/

/-- **Escaped text**: characters without a meaning in markup, and character references. -/
inductive Escaped : List Char → Prop
  | nil : Escaped []
  | char {c : Char} {cs : List Char} (plain : isMarkup c = false) (rest : Escaped cs) :
    Escaped (c :: cs)
  | reference {r cs : List Char} (reference : IsReference r) (rest : Escaped cs) :
    Escaped (r ++ cs)

/-- Behind its ampersand a reference is made of characters of ASCII without a meaning in markup, and
it stands on one line. -/
theorem IsReference.exists_eq_cons {r : List Char} (h : IsReference r) :
    ∃ body, r = '&' :: body ∧ ∀ c ∈ body, isMarkup c = false ∧ c ≠ '\n' ∧ c.toNat < 128 := by
  cases h with
  | named name known =>
    refine ⟨name.toList ++ [';'], rfl, fun c hc => ?_⟩
    have hall : (name.toList ++ [';']).all
        (fun c => !isMarkup c && c != '\n' && decide (c.toNat < 128)) = true := by
      simp only [List.mem_cons, List.not_mem_nil, or_false] at known
      rcases known with rfl | rfl | rfl | rfl <;> decide
    simpa [and_assoc] using List.all_eq_true.1 hall c hc
  | @numbered digits nonempty decimal =>
    refine ⟨'#' :: (digits ++ [';']), rfl, fun c hc => ?_⟩
    simp only [List.mem_cons, List.mem_append, List.not_mem_nil, or_false] at hc
    rcases hc with rfl | hc | rfl
    · decide
    · have hdigit := decimal c hc
      have hne (d : Char) (hd : d.isDigit = false) : c ≠ d := by
        rintro rfl
        simp [hd] at hdigit
      have hbounds : 48 ≤ c.toNat ∧ c.toNat ≤ 57 := by
        simp only [Char.isDigit, Bool.and_eq_true, decide_eq_true_eq] at hdigit
        exact hdigit
      refine ⟨?_, hne '\n' rfl, by omega⟩
      simp only [isMarkup, Bool.or_eq_false_iff, beq_eq_false_iff_ne]
      exact ⟨⟨⟨hne '<' rfl, hne '>' rfl⟩, hne '"' rfl⟩, hne '&' rfl⟩
    · decide

namespace Escaped

variable {cs ds : List Char}

/-- Plain text needs no escaping. -/
theorem of_plain (h : ∀ c ∈ cs, isMarkup c = false) : Escaped cs := by
  induction cs with
  | nil => exact .nil
  | cons c cs ih =>
    rw [List.forall_mem_cons] at h
    exact .char h.1 (ih h.2)

theorem append (h : Escaped cs) (h' : Escaped ds) : Escaped (cs ++ ds) := by
  induction h with
  | nil => exact h'
  | char plain _ ih => exact .char plain ih
  | reference reference _ ih =>
    rw [List.append_assoc]
    exact .reference reference ih

/-- Of the characters with a meaning in markup only ampersands are there. -/
theorem eq_ampersand (h : Escaped cs) {c : Char} (hc : c ∈ cs) (hmarkup : isMarkup c = true) :
    c = '&' := by
  induction h with
  | nil => simp at hc
  | char plain _ ih =>
    rcases List.mem_cons.1 hc with rfl | hc
    · rw [plain] at hmarkup
      simp at hmarkup
    · exact ih hc
  | reference reference _ ih =>
    obtain ⟨body, rfl, hbody⟩ := reference.exists_eq_cons
    rw [List.cons_append, List.mem_cons, List.mem_append] at hc
    rcases hc with rfl | hc | hc
    · rfl
    · rw [(hbody c hc).1] at hmarkup
      simp at hmarkup
    · exact ih hc

/-- An ampersand begins a reference. -/
theorem exists_reference (h : Escaped cs) (before : List Char) {after : List Char}
    (heq : cs = before ++ '&' :: after) : ∃ r rest, IsReference r ∧ '&' :: after = r ++ rest := by
  induction h generalizing before with
  | nil => simp at heq
  | @char c cs plain _ ih =>
    cases before with
    | nil =>
      obtain ⟨rfl, -⟩ := List.cons.inj heq
      simp [isMarkup] at plain
    | cons b before => exact ih before (List.cons.inj heq).2
  | @reference r cs reference _ ih =>
    obtain ⟨body, hr, hbody⟩ := reference.exists_eq_cons
    cases before with
    | nil => exact ⟨r, cs, reference, heq.symm⟩
    | cons b before =>
      rw [hr, List.cons_append, List.cons_append] at heq
      rcases List.append_eq_append_iff.1 (List.cons.inj heq).2 with ⟨as, -, has⟩ | ⟨bs, hbs, hrest⟩
      · exact ih _ has
      · cases bs with
        | nil => exact ih [] hrest.symm
        | cons d bs =>
          -- The ampersand would be part of the reference.
          obtain ⟨rfl, -⟩ := List.cons.inj hrest
          have hplain := (hbody '&' (by simp [hbs])).1
          simp [isMarkup] at hplain

/-- **Escaped text holds no markup.** -/
theorem isMarkupFree (h : Escaped cs) : IsMarkupFree cs where
  less hc := by simpa using h.eq_ampersand hc rfl
  greater hc := by simpa using h.eq_ampersand hc rfl
  quote hc := by simpa using h.eq_ampersand hc rfl
  ampersand before _ heq := h.exists_reference before heq

/-- **The lines of escaped text may be indented**: a line does not start within a reference. -/
theorem indentFrom (h : Escaped cs) {indent : List Char} (hindent : Escaped indent)
    (atStart : Bool) : Escaped (Mustache.indentFrom indent atStart cs) := by
  induction h generalizing atStart with
  | nil => exact .nil
  | char plain _ ih =>
    cases atStart with
    | true => exact hindent.append (.char plain (ih _))
    | false => exact .char plain (ih _)
  | reference reference _ ih =>
    obtain ⟨body, hr, hbody⟩ := reference.exists_eq_cons
    have hline : '\n' ∉ body := fun hc => (hbody _ hc).2.1 rfl
    have hrest := Escaped.reference reference (ih false)
    cases atStart with
    | true =>
      rw [indentFrom_true_append (by simp [hr]) (by simp [hr, hline])]
      exact hindent.append hrest
    | false =>
      rw [indentFrom_false_append (by simp [hr, hline])]
      exact hrest

end Escaped

/-! ## Escaping -/

theorem isReference_referenceTo (n : Nat) : IsReference (referenceTo n) :=
  .numbered Nat.toDigits_ne_nil fun _ hd => Nat.isDigit_of_mem_toDigits (by decide) (by decide) hd

theorem isReference_reference (c : Char) : IsReference (reference c) :=
  isReference_referenceTo c.toNat

/-- A character is escaped to itself or to a reference. -/
theorem escapeChar_cases (c : Char) :
    isMarkup c = false ∧ escapeChar c = [c] ∨ IsReference (escapeChar c) := by
  unfold escapeChar
  split
  · exact .inr (.named "amp" (by simp))
  · exact .inr (.named "lt" (by simp))
  · exact .inr (.named "gt" (by simp))
  · exact .inr (.named "quot" (by simp))
  · next hamp hless hgreater hquote =>
    refine .inl ⟨?_, rfl⟩
    simp only [isMarkup, Bool.or_eq_false_iff, beq_eq_false_iff_ne]
    exact ⟨⟨⟨hless, hgreater⟩, hquote⟩, hamp⟩

theorem escaped_escapeMarkup (cs : List Char) : Escaped (escapeMarkup cs) := by
  induction cs with
  | nil => exact .nil
  | cons c cs ih =>
    rw [escapeMarkup, List.flatMap_cons]
    rcases escapeChar_cases c with ⟨plain, heq⟩ | href
    · rw [heq]
      exact .char plain ih
    · exact .reference href ih

/-- Where every character fits, none is put in. -/
theorem flatMap_eq_self_of_fits {cs : List Char} {fits : Char → Bool}
    (h : ∀ c ∈ cs, fits c = true) :
    (cs.flatMap fun c => if fits c then [c] else Mustache.reference c) = cs := by
  induction cs with
  | nil => rfl
  | cons c cs ih =>
    rw [List.forall_mem_cons] at h
    rw [List.flatMap_cons, if_pos h.1, ih h.2, List.singleton_append]

/-- References may be put in for characters of escaped text, as long as ASCII stays. -/
theorem Escaped.substitute {cs : List Char} (h : Escaped cs) {fits : Char → Bool}
    (hascii : ∀ c, c.toNat < 128 → fits c = true) :
    Escaped (cs.flatMap fun c => if fits c then [c] else Mustache.reference c) := by
  induction h with
  | nil => exact .nil
  | @char c cs plain _ ih =>
    rw [List.flatMap_cons]
    split
    · exact .char plain ih
    · exact .reference (isReference_reference c) ih
  | @reference r cs reference _ ih =>
    have hfits : ∀ c ∈ r, fits c = true := by
      intro c hc
      obtain ⟨body, rfl, hbody⟩ := reference.exists_eq_cons
      rcases List.mem_cons.1 hc with rfl | hc
      · exact hascii '&' (by decide)
      · exact hascii c (hbody c hc).2.2
    rw [List.flatMap_append, flatMap_eq_self_of_fits hfits]
    exact .reference reference ih

/-- The charsets that represent every character, US-ASCII and ISO-8859-1, by their canonical
names. -/
def markupCharsets : List String := ["utf-8", "utf-16", "utf-32", "ascii", "iso8859-1"]

/-- Whether a coding has one byte for each character, and the bytes of ASCII for those of ASCII. -/
def takesAscii : Text.Coding → Bool
  | .codePointsBelow limit => decide (128 ≤ limit)
  | .asciiPage _ => true
  | _ => false

/-- Such a charset has the characters of ASCII, and puts substitutes for what it does not have. -/
theorem retell_of_takesAscii {s : Text.Charset} (h : takesAscii s.coding = true)
    (substitute : Char → List Char) (text : List Char) :
    (∀ c : Char, c.toNat < 128 → s.represents c = true) ∧
      s.retell substitute text =
        .ok (text.flatMap fun c => if s.represents c then [c] else substitute c) := by
  unfold takesAscii at h
  split at h
  · next limit hcoding =>
    refine ⟨fun c hc => ?_, by simp only [Text.Charset.retell, hcoding]⟩
    have hlimit : 128 ≤ limit := of_decide_eq_true h
    simp only [Text.Charset.represents, hcoding, decide_eq_true_eq]
    omega
  · next upper hcoding =>
    refine ⟨fun c hc => ?_, by simp only [Text.Charset.retell, hcoding]⟩
    simp only [Text.Charset.represents, hcoding, hc, decide_true, Bool.true_or]
  · simp at h

theorem takesAscii_of_mem_charsetTable {row : String × String × Text.Coding}
    (h : row ∈ Text.charsetTable) (hname : row.2.1 = "ascii" ∨ row.2.1 = "iso8859-1") :
    takesAscii row.2.2 = true := by
  have hall : Text.charsetTable.all (fun row =>
      !(row.2.1 == "ascii" || row.2.1 == "iso8859-1") || takesAscii row.2.2) = true := by
    decide +kernel
  have hrow := List.all_eq_true.1 hall row h
  rcases hname with hname | hname <;> simpa [hname] using hrow

/-- What is found is in the table. -/
theorem exists_mem_charsetTable {charset : String} {s : Text.Charset}
    (h : Text.Charset.find charset = .ok s) :
    ∃ key, (key, s.name, s.coding) ∈ Text.charsetTable := by
  unfold Text.Charset.find at h
  split at h
  · simp at h
  · split at h
    · next s' hnamed =>
      obtain rfl := Except.ok.inj h
      obtain ⟨key, -, hkey⟩ := List.exists_of_findSome?_eq_some hnamed
      obtain ⟨row, hrow, rfl⟩ := Option.map_eq_some_iff.1 hkey
      obtain ⟨before, after, hsplit, -⟩ := List.lookup_eq_some_iff.1 hrow
      exact ⟨key, by rw [hsplit]; simp⟩
    · simp at h

/-- Among the charsets for markup, those that do not represent every character take ASCII. -/
theorem takesAscii_of_find {charset : String} {s : Text.Charset}
    (h : Text.Charset.find charset = .ok s) (hs : s.name ∈ markupCharsets)
    (hnot : isUniversal s = false) : takesAscii s.coding = true := by
  obtain ⟨key, hrow⟩ := exists_mem_charsetTable h
  refine takesAscii_of_mem_charsetTable hrow ?_
  simp only [markupCharsets, List.mem_cons, List.not_mem_nil, or_false] at hs
  simp only [isUniversal, Bool.or_eq_false_iff, beq_eq_false_iff_ne] at hnot
  tauto

/-- **Escaping for one of these charsets leaves no markup.** -/
theorem escaped_escape {charset text out : String} {s : Text.Charset}
    (hs : Text.Charset.find charset = .ok s) (hname : s.name ∈ markupCharsets)
    (h : escape charset text = .ok out) : Escaped out.toList := by
  unfold escape at h
  rw [hs] at h
  unfold escapeFor at h
  dsimp only at h
  split at h
  · rw [← Except.ok.inj h, String.toList_ofList]
    exact escaped_escapeMarkup _
  · next hnot =>
    rw [Bool.or_eq_true, not_or] at hnot
    have htakes := takesAscii_of_find hs hname (by simpa using hnot.1)
    obtain ⟨hascii, hretell⟩ := retell_of_takesAscii htakes reference (escapeMarkup text.toList)
    split at h
    · simp at h
    · simp only [hretell, Except.map, Except.mapError, Except.ok.injEq] at h
      rw [← h, String.toList_ofList]
      exact (escaped_escapeMarkup _).substitute hascii

end Mustache
