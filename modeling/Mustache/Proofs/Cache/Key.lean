import Mathlib.Data.List.Basic
import Mustache.Engine

/-!
# Keys tell sources apart

The key of a source ends with the digest of a text that holds the source, behind the configuration
under which it is compiled. Digests are all of the same length, so that keys of engines with
different prefixes are different if the digests are. And the text that is digested can be taken
apart again: no charset has a name in which the word could occur that stands in front of the source.

## Main definitions

* `Mustache.Engine.keyLabel` — what stands in front of the source in the text that is digested.

## Main results

* `Mustache.digest_eq_of_append_eq` — keys that are the same end with the same digest.
* `Mustache.Engine.keyText_inj` — digested texts that are the same have the same parts.
-/

namespace Mustache

/-! ## Digests -/

/-- A byte is written as two digits. -/
theorem Text.hexDigits_two : ∀ n < 256, (hexDigits 2 n).length = 2 ∧
    ∀ c ∈ hexDigits 2 n, c.isAlphanum = true := by
  have hbytes : ∀ byte : Fin 256, (hexDigits 2 byte).length = 2 ∧
      (hexDigits 2 byte).all Char.isAlphanum = true := by
    decide +kernel
  intro n hn
  obtain ⟨hlength, hall⟩ := hbytes ⟨n, hn⟩
  exact ⟨hlength, List.all_eq_true.1 hall⟩

theorem Digest.length_bytes (message : List UInt8) : (bytes message).length = 16 := rfl

theorem length_digest (text : String) : (digest text).toList.length = 32 := by
  have hbyte (b : UInt8) : (Text.hexDigits 2 b.toNat).length = 2 :=
    (Text.hexDigits_two b.toNat b.toNat_lt).1
  rw [digest, Text.hexOf, String.toList_ofList, List.length_flatMap, List.map_congr_left fun b _ =>
    hbyte b, List.map_const', List.sum_replicate_nat, Digest.length_bytes]

theorem isAlphanum_of_mem_digest {text : String} {c : Char} (h : c ∈ (digest text).toList) :
    c.isAlphanum = true := by
  rw [digest, Text.hexOf, String.toList_ofList, List.mem_flatMap] at h
  obtain ⟨b, -, hb⟩ := h
  exact (Text.hexDigits_two b.toNat b.toNat_lt).2 c hb

/-- What ends with one digest ends with no other. -/
theorem digest_eq_of_suffix {x y : String} {text : List Char}
    (h : (digest x).toList <:+ text) (h' : (digest y).toList <:+ text) : digest x = digest y := by
  have hlength : (digest x).toList.length = (digest y).toList.length := by
    rw [length_digest, length_digest]
  have hsuffix := List.suffix_of_suffix_length_le h h' (Nat.le_of_eq hlength)
  exact String.toList_inj.1 (hsuffix.eq_of_length hlength)

theorem digest_eq_of_append_eq {p q x y : String} (h : p ++ digest x = q ++ digest y) :
    digest x = digest y := by
  have hx : (digest x).toList <:+ (p ++ digest x).toList := by
    rw [String.toList_append]
    exact List.suffix_append _ _
  have hy : (digest y).toList <:+ (p ++ digest x).toList := by
    rw [h, String.toList_append]
    exact List.suffix_append _ _
  exact digest_eq_of_suffix hx hy

/-! ## Names of charsets -/

namespace Text.Charset

/-- Letters and digits in lower case, side by side, stay as they are in the normal form of a
name. -/
theorem infix_normalFrom {word name : List Char}
    (hword : ∀ c ∈ word, isNameChar c = true ∧ c.toLower = c) (h : word <:+: name)
    (started gap : Bool) : word <:+: normalFrom started gap name := by
  have hinside (rest : List Char) (word : List Char)
      (hword : ∀ c ∈ word, isNameChar c = true ∧ c.toLower = c) :
      normalFrom true false (word ++ rest) = word ++ normalFrom true false rest := by
    induction word with
    | nil => rfl
    | cons c cs ih =>
      obtain ⟨hname, hlower⟩ := hword c (by simp)
      rw [List.cons_append, normalFrom, if_pos hname, hlower,
        ih fun c' hc' => hword c' (by simp [hc'])]
      rfl
  obtain ⟨before, after, rfl⟩ := h
  rw [List.append_assoc]
  induction before generalizing started gap with
  | nil =>
    cases word with
    | nil => exact List.nil_infix
    | cons c cs =>
      obtain ⟨hname, hlower⟩ := hword c (by simp)
      rw [List.nil_append, List.cons_append, normalFrom, if_pos hname, hlower,
        hinside _ cs fun c' hc' => hword c' (by simp [hc'])]
      refine ⟨if gap && started then ['_'] else [], normalFrom true false after, ?_⟩
      cases (gap && started) <;> simp
  | cons c cs ih =>
    rw [List.cons_append, normalFrom]
    split
    · exact (ih true false).trans (List.suffix_append _ _).isInfix
    · exact ih started true

/-- The word that stands in front of the source in the texts that are digested. -/
def sourceWord : List Char := ['s', 'o', 'u', 'r', 'c', 'e']

/-- What occurs in a text occurs in its bytes. -/
theorem infix_bytes {word text : String} (h : word.toList <:+: text.toList) :
    word.toByteArray.data.toList <:+: text.toByteArray.data.toList := by
  obtain ⟨before, after, h⟩ := h
  have htext : text = String.ofList before ++ word ++ String.ofList after := by
    rw [← String.toList_inj, ← h]
    simp
  rw [htext]
  simp only [String.toByteArray_append, ByteArray.data_append, Array.toList_append]
  exact ⟨_, _, rfl⟩

/-- No charset is found under a name in which the word occurs. -/
theorem not_sourceWord_infix {name : String} {s : Charset} (h : find name = .ok s) :
    ¬ sourceWord <:+: name.toList := by
  intro hinfix
  have hkeys : ∀ row ∈ charsetTable, ¬ ("source".toByteArray.data.toList <:+:
      row.1.toByteArray.data.toList) := by decide +kernel
  have haliases : ∀ row ∈ charsetAliases, ¬ ("source".toByteArray.data.toList <:+:
      row.1.toByteArray.data.toList) := by decide +kernel
  have hnormal : sourceWord <:+: (normalName name).toList := by
    rw [normalName, String.toList_ofList]
    have hword : sourceWord.all (fun c => isNameChar c && c.toLower == c) = true := by decide
    refine infix_normalFrom (fun c hc => ?_) hinfix false false
    simpa using List.all_eq_true.1 hword c hc
  have hunderscored : sourceWord <:+: (String.ofList
      ((normalName name).toList.map fun c => if c == '.' then '_' else c)).toList := by
    rw [String.toList_ofList]
    exact hnormal.map fun c => if c == '.' then '_' else c
  have hnone {β : Type} {rows : List (String × β)} (hrows : ∀ row ∈ rows,
      ¬ ("source".toByteArray.data.toList <:+: row.1.toByteArray.data.toList)) {key : String}
      (hkey : sourceWord <:+: key.toList) : rows.lookup key = none := by
    rw [List.lookup_eq_none_iff]
    intro row hrow
    rw [bne_iff_ne]
    rintro rfl
    have hword : "source".toList = sourceWord := by decide
    exact hrows row hrow (infix_bytes (hword ▸ hkey))
  have hnamed : named? name = none := by
    rw [named?, keysFor]
    rw [hnone haliases hnormal, hnone haliases hunderscored]
    show [normalName name].findSome? _ = none
    rw [List.findSome?_cons, List.findSome?_nil, hnone hkeys hnormal]
    rfl
  rw [find, hnamed] at h
  split at h <;> simp at h

end Text.Charset

/-! ## Texts that are digested -/

/-- What comes behind the first occurrence of a separator is determined by the whole. -/
theorem append_separator_inj {α : Type} {c : α} {w a b x y : List α} (hc : c ∉ w)
    (ha : ¬ (c :: w) <:+: a) (hb : ¬ (c :: w) <:+: b)
    (h : a ++ (c :: w ++ x) = b ++ (c :: w ++ y)) : a = b ∧ x = y := by
  -- If one part in front were shorter, the separator would begin in the other one and end there.
  have hwithin {r u v : List α} (h : c :: w ++ u = r ++ (c :: w ++ v)) (hr : r ≠ []) :
      (c :: w) <:+: r := by
    cases r with
    | nil => exact absurd rfl hr
    | cons d r =>
      rw [List.cons_append, List.cons_append, List.cons.injEq] at h
      obtain ⟨rfl, h⟩ := h
      rcases List.append_eq_append_iff.1 h with ⟨rest, rfl, -⟩ | ⟨rest, hw, hrest⟩
      · exact ⟨[], rest, by simp⟩
      · cases rest with
        | nil => exact ⟨[], [], by simp [hw]⟩
        | cons d rest =>
          obtain ⟨rfl, -⟩ := List.cons.inj hrest
          exact absurd (hw ▸ by simp) hc
  rcases List.append_eq_append_iff.1 h with ⟨r, rfl, hr⟩ | ⟨r, rfl, hr⟩
  · cases r with
    | nil => exact ⟨(List.append_nil a).symm, List.append_cancel_left hr⟩
    | cons d r => exact absurd ((hwithin hr (by simp)).trans (List.suffix_append _ _).isInfix) hb
  · cases r with
    | nil => exact ⟨List.append_nil b, (List.append_cancel_left hr).symm⟩
    | cons d r => exact absurd ((hwithin hr (by simp)).trans (List.suffix_append _ _).isInfix) ha

namespace Engine

/-- What stands in front of the source in the text that is digested. -/
def keyLabel (e : Engine) : String :=
  "version:" ++ version ++ ",escape:" ++ e.escapeMode ++ ",charset:" ++ e.charset ++ ",source:"

theorem className_eq (e : Engine) (source : String) :
    e.className source = e.classPrefix ++ digest (e.keyLabel ++ source) := rfl

/-- **Digested texts that are the same have the same parts**, for engines with charsets that there
are: the first separator behind the way of escaping and the first one behind the charset stand where
they should, whatever the source holds. -/
theorem keyText_inj {e e' : Engine} {s s' : Text.Charset}
    (hcharset : Text.Charset.find e.charset = .ok s)
    (hcharset' : Text.Charset.find e'.charset = .ok s') {x y : String}
    (h : e.keyText x = e'.keyText y) :
    e.escapeMode = e'.escapeMode ∧ e.charset = e'.charset ∧ x = y := by
  have hmode (e : Engine) : ¬ (',' :: "charset:".toList) <:+: e.escapeMode.toList := by
    unfold escapeMode
    split
    · decide +kernel
    · split <;> decide +kernel
  have hname {e : Engine} {s : Text.Charset} (h : Text.Charset.find e.charset = .ok s) :
      ¬ (',' :: "source:".toList) <:+: e.charset.toList := by
    intro hinfix
    have hword : Text.Charset.sourceWord <:+: ',' :: "source:".toList := by decide
    exact Text.Charset.not_sourceWord_infix h (hword.trans hinfix)
  have htext (e : Engine) (x : String) : (e.keyText x).toList =
      ("version:" ++ version ++ ",escape:").toList ++ (e.escapeMode.toList ++
        (',' :: "charset:".toList ++ (e.charset.toList ++
        (',' :: "source:".toList ++ x.toList)))) := by
    have hcharset : ",charset:".toList = ',' :: "charset:".toList := by decide
    have hsource : ",source:".toList = ',' :: "source:".toList := by decide
    simp only [keyText, String.toList_append, List.append_assoc, hcharset, hsource]
  have hlists := congrArg String.toList h
  rw [htext, htext] at hlists
  obtain ⟨hsameMode, hrest⟩ := append_separator_inj (by decide) (hmode e) (hmode e')
    (List.append_cancel_left hlists)
  obtain ⟨hsameCharset, hsame⟩ :=
    append_separator_inj (by decide) (hname hcharset) (hname hcharset') hrest
  exact ⟨String.toList_inj.1 hsameMode, String.toList_inj.1 hsameCharset, String.toList_inj.1 hsame⟩

end Engine

end Mustache
