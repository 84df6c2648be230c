import Mathlib.Tactic.Common
import Mustache.Proofs.Text.Bytes
import Mustache.Proofs.Text.Markup

/-!
# Reading escaped text

What escaping puts in place of a code point is told apart from everything around it, because an
ampersand of the text itself is escaped as well. So one pass from the left over the escaped text
gives the text back, also where the text had references of its own and where characters that do not
fit in a charset stand beside ampersands.

The charsets that represent every character have no bytes for surrogates, and yet surrogates are
left as they are for them. This is all that stands between escaped text and its bytes.

## Main definitions

* `Mustache.readReference?` — the code point of the reference at the start of a text.
* `Mustache.unescape` — a text with the code points of its references.
* `Mustache.Text.Writer.leaves` — the code points that escaping for a charset leaves as they are.

## Main results

* `Mustache.unescape_substituted` — reading undoes escaping.
* `Mustache.escapePoints_faithful` — escaping for a charset.
-/

namespace Mustache

/-! ## Code points -/

namespace CodePoint

/-- The code point with a number. -/
def ofNat? (n : Nat) : Option CodePoint :=
  if h : 0xD800 ≤ n ∧ n ≤ 0xDFFF then some (surrogate ⟨n - 0xD800, by omega⟩)
  else (Text.char? n).map char

theorem ofNat?_toNat (p : CodePoint) : ofNat? p.toNat = some p := by
  cases p with
  | char c =>
    have hvalid : c.toNat < 0xD800 ∨ 0xDFFF < c.toNat ∧ c.toNat < 0x110000 := c.valid
    have hnot : ¬(0xD800 ≤ c.toNat ∧ c.toNat ≤ 0xDFFF) := by omega
    show ofNat? c.toNat = _
    rw [ofNat?, dif_neg hnot, Text.char?_toNat, Option.map_some]
  | surrogate n =>
    have hn := n.isLt
    have hbounds : 0xD800 ≤ 0xD800 + n.val ∧ 0xD800 + n.val ≤ 0xDFFF := by omega
    show ofNat? (0xD800 + n.val) = _
    rw [ofNat?, dif_pos hbounds]
    simp

/-- The characters at the start of a text, and what stands from the first surrogate on. -/
def leading : List CodePoint → List Char × List CodePoint
  | char c :: ps => (c :: (leading ps).1, (leading ps).2)
  | ps => ([], ps)

theorem map_char_leading (ps : List CodePoint) :
    (leading ps).1.map char ++ (leading ps).2 = ps := by
  induction ps with
  | nil => rfl
  | cons p ps ih =>
    cases p with
    | char c =>
      show char c :: ((leading ps).1.map char ++ (leading ps).2) = _
      rw [ih]
    | surrogate n => rfl

theorem leading_map_char_append (cs : List Char) (ps : List CodePoint) :
    leading (cs.map char ++ ps) = (cs ++ (leading ps).1, (leading ps).2) := by
  induction cs with
  | nil => rfl
  | cons c cs ih =>
    rw [List.map_cons, List.cons_append, leading, ih]
    rfl

end CodePoint

/-! ## References -/

/-- The references by a name, without their ampersand. -/
def namedReferences : List (List Char × Char) :=
  [("amp;".toList, '&'), ("lt;".toList, '<'), ("gt;".toList, '>'), ("quot;".toList, '"')]

/-- The character of a reference by a name behind its ampersand, and the text behind the
reference. -/
def readNamed? (cs : List Char) : Option (CodePoint × List Char) :=
  namedReferences.findSome? fun (name, c) => (Text.behind? name cs).map (.char c, ·)

/-- The code point of a reference by a decimal number behind its number sign, and the text behind
the reference. -/
def readNumbered? (cs : List Char) : Option (CodePoint × List Char) :=
  match cs.takeWhile Char.isDigit, cs.dropWhile Char.isDigit with
  | d :: digits, ';' :: rest =>
    (CodePoint.ofNat? (Nat.ofDigitChars 10 (d :: digits) 0)).map (·, rest)
  | _, _ => none

/-- The code point of the reference at the start of a text, and the text behind the reference. -/
def readReference? : List Char → Option (CodePoint × List Char)
  | '&' :: '#' :: cs => readNumbered? cs
  | '&' :: cs => readNamed? cs
  | _ => none

theorem length_of_readReference? {cs rest : List Char} {p : CodePoint}
    (h : readReference? cs = some (p, rest)) : rest.length < cs.length := by
  unfold readReference? at h
  split at h
  · next cs =>
    unfold readNumbered? at h
    split at h
    · next d digits rest' _ hdrop =>
      obtain ⟨_, -, heq⟩ := Option.map_eq_some_iff.1 h
      obtain ⟨-, rfl⟩ := Prod.mk.inj heq
      have hlength := (List.dropWhile_sublist Char.isDigit (l := cs)).length_le
      simp only [hdrop, List.length_cons] at hlength ⊢
      omega
    · simp at h
  · next cs _ =>
    obtain ⟨⟨name, d⟩, -, hname⟩ := List.exists_of_findSome?_eq_some h
    obtain ⟨_, hbehind, heq⟩ := Option.map_eq_some_iff.1 hname
    obtain ⟨-, rfl⟩ := Prod.mk.inj heq
    rw [Text.behind?_eq_some_iff.1 hbehind, List.length_cons, List.length_append]
    omega
  · simp at h

/-- The text with the code points of its references, in one pass from the left. A reference is made
of characters, so that it ends where a surrogate stands. -/
def unescape : List CodePoint → List CodePoint
  | [] => []
  | p :: ps =>
    match _h : readReference? (CodePoint.leading (p :: ps)).1 with
    | some (q, rest) => q :: unescape (rest.map .char ++ (CodePoint.leading (p :: ps)).2)
    | none => p :: unescape ps
termination_by ps => ps.length
decreasing_by
  · have hparts := congrArg List.length (CodePoint.map_char_leading (p :: ps))
    have hless := length_of_readReference? _h
    simp only [List.length_append, List.length_map, List.length_cons] at hparts ⊢
    omega
  · simp

/-- What begins with a reference is read as its code point, whatever stands behind it. -/
theorem unescape_map_char_append {r : List Char} {p : CodePoint}
    (h : ∀ cs, readReference? (r ++ cs) = some (p, cs)) (ps : List CodePoint) :
    unescape (r.map .char ++ ps) = p :: unescape ps := by
  have hread : readReference? (CodePoint.leading (r.map .char ++ ps)).1 =
      some (p, (CodePoint.leading ps).1) := by
    rw [CodePoint.leading_map_char_append]
    exact h _
  have hrest : (CodePoint.leading (r.map .char ++ ps)).2 = (CodePoint.leading ps).2 := by
    rw [CodePoint.leading_map_char_append]
  cases hcons : r.map CodePoint.char ++ ps with
  | nil =>
    rw [hcons] at hread
    simp [CodePoint.leading, readReference?] at hread
  | cons q qs =>
    rw [hcons] at hread hrest
    rw [unescape]
    split
    · next heq =>
      rw [hread] at heq
      obtain ⟨rfl, rfl⟩ := Prod.mk.inj (Option.some.inj heq)
      rw [hrest, CodePoint.map_char_leading]
    · next heq => simp [hread] at heq

theorem unescape_cons_of_ne {p : CodePoint} (hp : p ≠ .char '&') (ps : List CodePoint) :
    unescape (p :: ps) = p :: unescape ps := by
  have hnone : readReference? (CodePoint.leading (p :: ps)).1 = none := by
    cases p with
    | char c =>
      have hc : c ≠ '&' := fun heq => hp (heq ▸ rfl)
      rw [CodePoint.leading]
      unfold readReference?
      split <;> simp_all
    | surrogate n => rfl
  rw [unescape]
  split
  · next heq => simp [hnone] at heq
  · rfl

/-! ## What escaping puts in place of a code point -/

/-- A reference by number is read in whole, whatever stands behind it. -/
theorem readReference?_referenceTo (p : CodePoint) (cs : List Char) :
    readReference? (referenceTo p.toNat ++ cs) = some (p, cs) := by
  have hdigits : ∀ d ∈ Nat.toDigits 10 p.toNat, d.isDigit = true := fun _ hd =>
    Nat.isDigit_of_mem_toDigits (by decide) (by decide) hd
  have heq : referenceTo p.toNat ++ cs = '&' :: '#' :: (Nat.toDigits 10 p.toNat ++ ';' :: cs) := by
    simp [referenceTo]
  have htake : (Nat.toDigits 10 p.toNat ++ ';' :: cs).takeWhile Char.isDigit =
      Nat.toDigits 10 p.toNat := by
    rw [List.takeWhile_append_of_pos hdigits, List.takeWhile_cons_of_neg (by decide),
      List.append_nil]
  have hdrop : (Nat.toDigits 10 p.toNat ++ ';' :: cs).dropWhile Char.isDigit = ';' :: cs := by
    rw [List.dropWhile_append_of_pos hdigits, List.dropWhile_cons_of_neg (by decide)]
  obtain ⟨d, digits, hcons⟩ := List.exists_cons_of_ne_nil
    (Nat.toDigits_ne_nil (b := 10) (n := p.toNat))
  have hvalue : Nat.ofDigitChars 10 (d :: digits) 0 = p.toNat := by
    rw [← hcons, Nat.ofDigitChars_toDigits (by decide) (by decide)]
  rw [hcons] at heq htake hdrop
  simp only [heq, readReference?, readNumbered?, htake, hdrop, hvalue, CodePoint.ofNat?_toNat,
    Option.map_some]

/-- The name of a character with a meaning in markup is read in whole. -/
theorem readReference?_escapeChar {c : Char} (hc : isMarkup c = true) (cs : List Char) :
    readReference? (escapeChar c ++ cs) = some (.char c, cs) := by
  simp only [isMarkup, Bool.or_eq_true, beq_iff_eq] at hc
  rcases hc with ((rfl | rfl) | rfl) | rfl <;> rfl

/-- A character that needs no escaping stays. -/
theorem escapeChar_of_isMarkup_eq_false {c : Char} (hc : isMarkup c = false) :
    escapeChar c = [c] := by
  rcases escapeChar_cases c with ⟨-, heq⟩ | href
  · exact heq
  · obtain ⟨body, hbody, -⟩ := href.exists_eq_cons
    unfold escapeChar at hbody ⊢
    split <;> simp_all [isMarkup]

/-- What escaping writes for a character with a meaning in markup is ASCII. -/
theorem toNat_lt_of_mem_escapeChar {c : Char} (hc : isMarkup c = true) :
    ∀ d ∈ escapeChar c, d.toNat < 128 := by
  have hall : (escapeChar c).all (fun d => decide (d.toNat < 128)) = true := by
    simp only [isMarkup, Bool.or_eq_true, beq_iff_eq] at hc
    rcases hc with ((rfl | rfl) | rfl) | rfl <;> decide
  exact fun d hd => of_decide_eq_true (List.all_eq_true.1 hall d hd)

/-! ## Reading undoes escaping -/

/-- A code point that is left as it is, or the reference to it. -/
def CodePoint.substituted (leaves : CodePoint → Bool) (p : CodePoint) : List CodePoint :=
  if leaves p then [p] else (referenceTo p.toNat).map .char

section

variable {leaves : CodePoint → Bool}

theorem flatMap_substituted_eq_self {ps : List CodePoint} (h : ∀ p ∈ ps, leaves p = true) :
    ps.flatMap (CodePoint.substituted leaves) = ps := by
  induction ps with
  | nil => rfl
  | cons p ps ih =>
    rw [List.forall_mem_cons] at h
    rw [List.flatMap_cons, CodePoint.substituted, if_pos h.1, ih h.2, List.singleton_append]

/-- A code point or a reference in its place is read as the code point. -/
theorem unescape_substituted_append {p : CodePoint} (hp : p ≠ .char '&') (ps : List CodePoint) :
    unescape (p.substituted leaves ++ ps) = p :: unescape ps := by
  unfold CodePoint.substituted
  split
  · exact unescape_cons_of_ne hp ps
  · exact unescape_map_char_append (readReference?_referenceTo p) ps

variable (hascii : ∀ c : Char, c.toNat < 128 → leaves (.char c) = true)

include hascii

/-- One code point, escaped and with a reference where it is not left, is read back. -/
theorem unescape_escaped_append (p : CodePoint) (ps : List CodePoint) :
    unescape (p.escaped.flatMap (CodePoint.substituted leaves) ++ ps) = p :: unescape ps := by
  cases p with
  | surrogate n =>
    rw [CodePoint.escaped, List.flatMap_singleton]
    exact unescape_substituted_append (by simp) ps
  | char c =>
    rw [CodePoint.escaped]
    cases hc : isMarkup c with
    | true =>
      have hleaves : ∀ q ∈ (escapeChar c).map CodePoint.char, leaves q = true := by
        intro q hq
        obtain ⟨d, hd, rfl⟩ := List.mem_map.1 hq
        exact hascii d (toNat_lt_of_mem_escapeChar hc d hd)
      rw [flatMap_substituted_eq_self hleaves]
      exact unescape_map_char_append (readReference?_escapeChar hc) ps
    | false =>
      rw [escapeChar_of_isMarkup_eq_false hc, List.map_singleton, List.flatMap_singleton]
      refine unescape_substituted_append ?_ ps
      rintro heq
      obtain rfl := CodePoint.char.inj heq
      simp [isMarkup] at hc

/-- **Reading undoes escaping**, with references for what is not left as it is as well. -/
theorem unescape_substituted (ps : List CodePoint) :
    unescape ((escapePointsMarkup ps).flatMap (CodePoint.substituted leaves)) = ps := by
  induction ps with
  | nil => simp [escapePointsMarkup, unescape]
  | cons p ps ih =>
    rw [escapePointsMarkup, List.flatMap_cons, List.flatMap_append, unescape_escaped_append hascii,
      ← escapePointsMarkup, ih]

end

/-! ## Escaping for a charset -/

/-- The code points that escaping for a charset leaves as they are: the characters that it has bytes
for, and surrogates if it is one of those for which nothing is looked at. -/
def Text.Writer.leaves (w : Text.Writer) (s : Text.Charset) : CodePoint → Bool
  | .char c => w.fits c
  | .surrogate _ => isUniversal s

section

variable {charset : String} {s : Text.Charset} {w : Text.Writer}

theorem toNat_lt_of_mem_referenceTo (n : Nat) : ∀ d ∈ referenceTo n, d.toNat < 128 := by
  obtain ⟨body, hbody, hascii⟩ := (isReference_referenceTo n).exists_eq_cons
  rw [hbody, List.forall_mem_cons]
  exact ⟨by decide, fun d hd => (hascii d hd).2.2⟩

/-- The charsets that represent every character have bytes for it. -/
theorem fits_of_isUniversal (hw : (s.name, w) ∈ Text.writers) (h : isUniversal s = true)
    (c : Char) : w.fits c = true := by
  simp only [isUniversal, Bool.or_eq_true, beq_iff_eq] at h
  obtain (h | h) | h := h <;> simp [Text.writers, h] at hw <;> rw [hw] <;> rfl

/-- Escaping leaves ASCII as it is. -/
theorem leaves_of_ascii (hw : (s.name, w) ∈ Text.writers) {p : CodePoint} (hp : p.toNat < 128) :
    w.leaves s p = true := by
  cases p with
  | char c => exact Text.Writer.fits_of_ascii hw hp
  | surrogate n =>
    simp only [CodePoint.toNat] at hp
    omega

/-- The characters that are written for code points, with references for what does not fit, if
surrogates are not left as they are. -/
theorem flatMap_spelled_substituted (hw : (s.name, w) ∈ Text.writers) {ps : List CodePoint}
    (h : isUniversal s = false ∨ ∀ n, CodePoint.surrogate n ∉ ps) :
    ((ps.flatMap CodePoint.spelled).flatMap fun c => if w.fits c then [c] else reference c).map
      CodePoint.char = ps.flatMap (CodePoint.substituted (w.leaves s)) := by
  induction ps with
  | nil => rfl
  | cons p ps ih =>
    have hrest : isUniversal s = false ∨ ∀ n, CodePoint.surrogate n ∉ ps :=
      h.imp_right fun hnone n hmem => hnone n (List.mem_cons_of_mem _ hmem)
    rw [List.flatMap_cons, List.flatMap_append, List.map_append, ih hrest, List.flatMap_cons]
    congr 1
    cases p with
    | char c =>
      rw [CodePoint.spelled, List.flatMap_singleton]
      show List.map _ (if w.fits c then [c] else reference c) =
        if w.fits c then [CodePoint.char c] else (referenceTo c.toNat).map CodePoint.char
      split <;> rfl
    | surrogate n =>
      have hnot : isUniversal s = false :=
        h.resolve_right fun hnone => hnone n List.mem_cons_self
      rw [CodePoint.spelled, CodePoint.substituted,
        flatMap_eq_self_of_fits fun d hd =>
          Text.Writer.fits_of_ascii hw (toNat_lt_of_mem_referenceTo _ d hd)]
      simp [Text.Writer.leaves, hnot]

/-- A surrogate is escaped to itself. -/
theorem surrogate_mem_escapePointsMarkup_iff {ps : List CodePoint} {n : Fin 2048} :
    CodePoint.surrogate n ∈ escapePointsMarkup ps ↔ CodePoint.surrogate n ∈ ps := by
  unfold escapePointsMarkup
  rw [List.mem_flatMap]
  constructor
  · rintro ⟨p, hp, hmem⟩
    cases p with
    | char c => simp [CodePoint.escaped] at hmem
    | surrogate m =>
      rw [CodePoint.escaped, List.mem_singleton] at hmem
      exact hmem ▸ hp
  · exact fun h => ⟨_, h, List.mem_singleton_self _⟩

/-- A character of escaped code points is no angle bracket and no double quote. -/
theorem isPlain_of_mem_escapePointsMarkup {ps : List CodePoint} {c : Char}
    (h : CodePoint.char c ∈ escapePointsMarkup ps) : c ≠ '<' ∧ c ≠ '>' ∧ c ≠ '"' := by
  unfold escapePointsMarkup at h
  obtain ⟨p, -, hmem⟩ := List.mem_flatMap.1 h
  cases p with
  | surrogate n => simp [CodePoint.escaped] at hmem
  | char d =>
    obtain ⟨c', hc, heq⟩ := List.mem_map.1 hmem
    obtain rfl := CodePoint.char.inj heq
    have hescaped : Escaped (escapeChar d) := by simpa [escapeMarkup] using escaped_escapeMarkup [d]
    exact hescaped.isMarkupFree.ne_of_mem hc

/-- **What the answer is made of**: characters with bytes, and without a meaning in markup, and
surrogates of the text, where these are left as they are. -/
theorem mem_substituted (hw : (s.name, w) ∈ Text.writers) {ps : List CodePoint} {p : CodePoint}
    (h : p ∈ (escapePointsMarkup ps).flatMap (CodePoint.substituted (w.leaves s))) :
    (∃ c, p = .char c ∧ w.fits c = true ∧ c ≠ '<' ∧ c ≠ '>' ∧ c ≠ '"') ∨
      isUniversal s = true ∧ p ∈ ps ∧ ∃ n, p = .surrogate n := by
  obtain ⟨q, hq, hmem⟩ := List.mem_flatMap.1 h
  unfold CodePoint.substituted at hmem
  split at hmem
  · next hleaves =>
    obtain rfl := List.mem_singleton.1 hmem
    cases p with
    | char c => exact .inl ⟨c, rfl, hleaves, isPlain_of_mem_escapePointsMarkup hq⟩
    | surrogate n => exact .inr ⟨hleaves, surrogate_mem_escapePointsMarkup_iff.1 hq, n, rfl⟩
  · obtain ⟨d, hd, rfl⟩ := List.mem_map.1 hmem
    have hescaped := Escaped.reference (isReference_referenceTo q.toNat) .nil
    rw [List.append_nil] at hescaped
    exact .inl ⟨d, rfl, Text.Writer.fits_of_ascii hw (toNat_lt_of_mem_referenceTo _ d hd),
      hescaped.isMarkupFree.ne_of_mem hd⟩

/-- Both ways of escaping for a charset give the code points with references in place of those that
are not left as they are. -/
theorem escapePoints_eq (hs : Text.Charset.find charset = .ok s) (hw : (s.name, w) ∈ Text.writers)
    (ps : List CodePoint) : escapePoints charset ps =
      .ok ((escapePointsMarkup ps).flatMap (CodePoint.substituted (w.leaves s))) := by
  obtain ⟨key, hrow⟩ := exists_mem_charsetTable hs
  rw [escapePoints, hs]
  dsimp only
  rw [escapePointsFor]
  split
  · next hfits =>
    rw [flatMap_substituted_eq_self fun p hp => ?_]
    rw [Bool.or_eq_true, List.all_eq_true] at hfits
    rcases hfits with huniversal | hascii
    · cases p with
      | char c => exact fits_of_isUniversal hw huniversal c
      | surrogate n => exact huniversal
    · exact leaves_of_ascii hw (by simpa using hascii p hp)
  · next hnot =>
    rw [Bool.or_eq_true, not_or] at hnot
    have huniversal : isUniversal s = false := by simpa using hnot.1
    have hname : s.name ∈ markupCharsets := List.mem_map_of_mem (f := Prod.fst) hw
    have htakes := takesAscii_of_find hs hname huniversal
    have hretell := (retell_of_takesAscii htakes reference
      ((escapePointsMarkup ps).flatMap CodePoint.spelled)).2
    split
    · next hcoding => simp [hcoding, takesAscii] at htakes
    · rw [hretell]
      refine congrArg Except.ok ?_
      simp only [Text.Writer.represents_eq_fits hrow hw,
        flatMap_spelled_substituted hw (.inl huniversal)]

/-- **Escaping for a charset loses nothing.** It answers for all code points, without angle brackets
and double quotes; reading the references in one pass gives the text back; what is put together may
be escaped in parts; and the answer holds nothing that the charset has no bytes for, but surrogates
of the text, which the charsets for all characters leave as they are. Where this does not happen,
the answer is what is read from the bytes of the text with its entities, also where nothing needs to
be written because this text is ASCII already. -/
theorem escapePoints_faithful (hs : Text.Charset.find charset = .ok s)
    (hw : (s.name, w) ∈ Text.writers) :
    ∃ f : List CodePoint → List CodePoint, (∀ v, escapePoints charset v = .ok (f v)) ∧
      (∀ v, ∀ p ∈ f v, (∃ c, p = .char c ∧ w.fits c = true ∧ c ≠ '<' ∧ c ≠ '>' ∧ c ≠ '"') ∨
        isUniversal s = true ∧ p ∈ v ∧ ∃ n, p = .surrogate n) ∧
      (∀ v, unescape (f v) = v) ∧
      (∀ v₁ v₂, f (v₁ ++ v₂) = f v₁ ++ f v₂) ∧
      (∀ v, (isUniversal s = false ∨ ∀ n, CodePoint.surrogate n ∉ v) →
        ∃ bs cs, w.encode? reference ((escapePointsMarkup v).flatMap CodePoint.spelled) = some bs ∧
          s.decode bs = .ok cs ∧ f v = cs.map .char) ∧
      ∀ v, (∀ p ∈ escapePointsMarkup v, p.toNat < 128) → f v = escapePointsMarkup v := by
  obtain ⟨key, hrow⟩ := exists_mem_charsetTable hs
  have hascii : ∀ c : Char, c.toNat < 128 → w.fits c = true := fun c hc =>
    Text.Writer.fits_of_ascii hw hc
  have hreference : ∀ c, ∀ d ∈ reference c, w.fits d = true := fun c d hd =>
    hascii d (toNat_lt_of_mem_referenceTo c.toNat d hd)
  refine ⟨_, escapePoints_eq hs hw, fun v p hp => ?_, fun v => ?_, fun v₁ v₂ => ?_, fun v hv => ?_,
    fun v hv => ?_⟩
  · exact mem_substituted hw hp
  · exact unescape_substituted hascii v
  · rw [escapePointsMarkup, List.flatMap_append, List.flatMap_append]
    rfl
  · have hnone := hv.imp_right fun hnone n hmem =>
      hnone n (surrogate_mem_escapePointsMarkup_iff.1 hmem)
    obtain ⟨bs, hbs, hread⟩ := Text.Writer.decode_encode? hrow hw hreference
      ((escapePointsMarkup v).flatMap CodePoint.spelled)
    exact ⟨bs, _, hbs, hread, (flatMap_spelled_substituted hw hnone).symm⟩
  · exact flatMap_substituted_eq_self fun p hp => leaves_of_ascii hw (hv p hp)

/-- Escaping for ISO-8859-1 under another name; a surrogate becomes a reference. -/
theorem escapePoints_faithful_latin1 :
    ∃ f : List CodePoint → List CodePoint, (∀ v, escapePoints "Latin-1" v = .ok (f v)) ∧
      (∀ v, unescape (f v) = v) ∧
        f (CodePoint.ofText "&é€" ++ [.surrogate 0]) =
          CodePoint.ofText "&amp;é&#8364;&#55296;" := by
  have hs : Text.Charset.find "Latin-1" = .ok ⟨"iso8859-1", .codePointsBelow 256⟩ := rfl
  obtain ⟨f, hf, -, hread, -⟩ :=
    escapePoints_faithful (w := .narrow 256) hs (by simp [Text.writers])
  have hfour : escapePoints "Latin-1" (CodePoint.ofText "&é€" ++ [.surrogate 0]) =
      .ok (CodePoint.ofText "&amp;é&#8364;&#55296;") := by
    rw [escapePoints, hs]
    rfl
  exact ⟨f, hf, hread, Except.ok.inj ((hf _).symm.trans hfour)⟩

/-- For UTF-8 nothing is looked at, and a surrogate stays. -/
example : (escapePoints "UTF-8" [.surrogate 0]).toOption = some [.surrogate 0] := by decide +kernel

end

end Mustache
