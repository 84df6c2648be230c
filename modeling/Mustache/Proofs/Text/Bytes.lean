import Mathlib.Algebra.Group.Nat.Defs
import Mathlib.Tactic.Common
import Mustache.Text.Charset

/-!
# Writing text in bytes

The charsets for markup, from the side of a writer: the bytes that each of them has for a character,
and the mark that stands in front of a text. What is written is read again as it was. Where a
character has no bytes a substitute is written for it.

## Main definitions

* `Mustache.Text.Writer` — how a charset writes text.
* `Mustache.Text.writers` — the charsets for markup, by their canonical names.
* `Mustache.Text.Writer.encode?` — the bytes of a text.

## Main results

* `Mustache.Text.Writer.decode_encode?` — bytes are read as the text they were written for.
* `Mustache.Text.Writer.represents_eq_fits` — a charset represents what its writer has bytes for.

## Implementation notes

No character is a surrogate, so that the charsets for all characters have bytes for each of them.
What escaping does with lone surrogates is described on code points (`Mustache.escapePoints`).
-/

namespace Mustache.Text

/-! ## Writers -/

/-- The last `size` digits of a number to the base 256, the last digit first. -/
def lowFirst : (size n : Nat) → List UInt8
  | 0, _ => []
  | size + 1, n => UInt8.ofNat n :: lowFirst size (n / 256)

/-- The units of sixteen bits that stand for a character: one, or two surrogates. -/
def units16 (c : Char) : List Nat :=
  if c.toNat < 0x10000 then [c.toNat]
  else [0xD800 + (c.toNat - 0x10000) / 0x400, 0xDC00 + (c.toNat - 0x10000) % 0x400]

/-- How a charset writes text. -/
structure Writer where
  /-- What stands in front of a text. -/
  mark : List UInt8
  /-- The bytes of a character, if it has any. -/
  bytes? : Char → Option (List UInt8)

namespace Writer

/-- A byte for each character with a small code point. -/
def narrow (limit : Nat) : Writer where
  mark := []
  bytes? c := if c.toNat < limit then some [UInt8.ofNat c.toNat] else none

def utf8 : Writer where
  mark := []
  bytes? c := some (String.utf8EncodeChar c)

/-- UTF-16, the low byte of a unit first, as a mark in front says. -/
def utf16 : Writer where
  mark := [0xFF, 0xFE]
  bytes? c := some ((units16 c).flatMap (lowFirst 2))

/-- UTF-32, the low byte of a unit first, as a mark in front says. -/
def utf32 : Writer where
  mark := [0xFF, 0xFE, 0, 0]
  bytes? c := some (lowFirst 4 c.toNat)

/-- Whether a character has bytes. -/
def fits (w : Writer) (c : Char) : Bool := (w.bytes? c).isSome

/-- The bytes of a text, with substitutes for the characters that have none. -/
def encode? (w : Writer) (substitute : Char → List Char) (text : List Char) :
    Option (List UInt8) :=
  ((text.flatMap fun c => if w.fits c then [c] else substitute c).mapM w.bytes?).map fun bs =>
    w.mark ++ bs.flatten

end Writer

/-- The writers of the charsets for markup, by their canonical names. -/
def writers : List (String × Writer) :=
  [("utf-8", .utf8), ("utf-16", .utf16), ("utf-32", .utf32), ("ascii", .narrow 128),
    ("iso8859-1", .narrow 256)]

/-! ## Groups of bytes -/

theorem toNat_lt_last (c : Char) : c.toNat < 0x110000 := by
  have hvalid : c.toNat < 0xD800 ∨ 0xDFFF < c.toNat ∧ c.toNat < 0x110000 := c.valid
  omega

theorem char?_toNat (c : Char) : char? c.toNat = some c := by
  have hvalid : c.toNat < 0xD800 ∨ 0xDFFF < c.toNat ∧ c.toNat < 0x110000 := c.valid
  unfold char?
  rw [if_pos (by simpa using hvalid), Char.ofNat_toNat]

theorem length_lowFirst (size n : Nat) : (lowFirst size n).length = size := by
  induction size generalizing n with
  | zero => rfl
  | succ size ih => rw [lowFirst, List.length_cons, ih]

namespace Unicode

theorem littleEndian_lowFirst (size n : Nat) :
    littleEndian (lowFirst size n) = n % 256 ^ size := by
  induction size generalizing n with
  | zero => simp [lowFirst, littleEndian, Nat.mod_one]
  | succ size ih =>
    rw [lowFirst, littleEndian, ih, UInt8.toNat_ofNat']
    calc n % 256 + 256 * (n / 256 % 256 ^ size) = n % (256 * 256 ^ size) := Nat.mod_mul.symm
      _ = n % 256 ^ (size + 1) := by rw [Nat.pow_succ']

/-- Groups of one size are told apart. -/
theorem groups?_flatten {size : Nat} (hsize : 0 < size) {gs : List (List UInt8)} {fuel : Nat}
    (hgs : ∀ g ∈ gs, g.length = size) (hfuel : gs.length ≤ fuel) :
    groups? size gs.flatten fuel = some gs := by
  induction gs generalizing fuel with
  | nil => cases fuel <;> rfl
  | cons g gs ih =>
    rw [List.forall_mem_cons] at hgs
    obtain ⟨fuel, rfl⟩ : ∃ k, fuel = k + 1 := ⟨fuel - 1, by simp at hfuel; omega⟩
    have hne : (g ++ gs.flatten).isEmpty = false := by
      rw [List.isEmpty_eq_false_iff]
      rintro h
      simp_all
    have hlength : ¬(g ++ gs.flatten).length < size := by
      rw [List.length_append]
      omega
    rw [List.flatten_cons, groups?, hne, if_neg (by simp), if_neg hlength,
      List.drop_left' hgs.1, List.take_left' hgs.1, ih hgs.2 (by simpa using hfuel)]
    rfl

/-- Units that fit in their size are read as they were written. -/
theorem units?_flatMap_lowFirst {size : Nat} (hsize : 0 < size) {us : List Nat}
    (hus : ∀ u ∈ us, u < 256 ^ size) :
    units? size false (us.flatMap (lowFirst size)) = some us := by
  have hlength : us.length ≤ (us.flatMap (lowFirst size)).length := by
    simp only [List.length_flatMap, length_lowFirst, List.map_const', List.sum_replicate_nat]
    exact Nat.le_mul_of_pos_right _ hsize
  have hgroups : groups? size (us.flatMap (lowFirst size)) (us.flatMap (lowFirst size)).length =
      some (us.map (lowFirst size)) := by
    rw [List.flatMap_def] at hlength ⊢
    exact groups?_flatten hsize (by simp [length_lowFirst]) (by simpa using hlength)
  have hvalues : ∀ u ∈ us, littleEndian (lowFirst size u) = u := fun u hu => by
    rw [littleEndian_lowFirst, Nat.mod_eq_of_lt (hus u hu)]
  simp only [units?, hgroups, Option.map_some, List.map_map, Option.some.injEq]
  exact (List.map_congr_left hvalues).trans (List.map_id us)

/-! ## Text from units -/

/-- A unit of its own is read as a character, whatever stands behind it. -/
theorem ofUnits16?_cons {u : Nat} {c : Char} (hu : char? u = some c) (us : List Nat) :
    ofUnits16? (u :: us) = (ofUnits16? us).map (c :: ·) := by
  have hhigh : (0xD800 ≤ u && u ≤ 0xDBFF) = false := by
    unfold char? at hu
    split at hu
    · simp_all; omega
    · simp at hu
  cases us with
  | nil => simp [ofUnits16?, hu]
  | cons v us => simp [ofUnits16?, hu, hhigh]

/-- Characters are read from their units. -/
theorem ofUnits16?_flatMap_units16 (cs : List Char) :
    ofUnits16? (cs.flatMap units16) = some cs := by
  induction cs with
  | nil => rfl
  | cons c cs ih =>
    rw [List.flatMap_cons, units16]
    split
    · rw [List.singleton_append, ofUnits16?_cons (char?_toNat c), ih, Option.map_some]
    · next hsmall =>
      -- The two surrogates hold the ten high and the ten low bits.
      have hbound := toNat_lt_last c
      have hvalue : 0x10000 + (0xD800 + (c.toNat - 0x10000) / 0x400 - 0xD800) * 0x400 +
          (0xDC00 + (c.toNat - 0x10000) % 0x400 - 0xDC00) = c.toNat := by omega
      simp only [List.cons_append, List.nil_append, ofUnits16?]
      rw [if_pos (by simp; omega), if_pos (by simp; omega), ih, hvalue, Char.ofNat_toNat]
      rfl

theorem ofUnits32?_map_toNat (cs : List Char) : ofUnits32? (cs.map Char.toNat) = some cs := by
  induction cs with
  | nil => rfl
  | cons c cs ih =>
    rw [ofUnits32?] at ih ⊢
    simp [char?_toNat, ih]

theorem ofUtf8_flatMap_utf8EncodeChar (cs : List Char) :
    ofUtf8 (cs.flatMap String.utf8EncodeChar) = .ok cs := by
  have hbytes : ByteArray.mk (cs.flatMap String.utf8EncodeChar).toArray = cs.utf8Encode :=
    ByteArray.ext List.data_toByteArray.symm
  have hvalid : (ByteArray.mk (cs.flatMap String.utf8EncodeChar).toArray).IsValidUTF8 :=
    .intro cs hbytes
  have hread : String.fromUTF8 _ hvalid = String.ofList cs :=
    String.toByteArray_inj.1 (hbytes.trans String.toByteArray_ofList.symm)
  simp only [ofUtf8, String.fromUTF8?, dif_pos hvalid, hread, Option.map_some,
    String.toList_ofList, orInvalid]

theorem markOf?_utf16 (bs : List UInt8) :
    markOf? 2 ([0xFF, 0xFE] ++ bs) = some (false, bs) := by
  rw [List.cons_append, List.singleton_append, markOf?]

theorem markOf?_utf32 (bs : List UInt8) :
    markOf? 4 ([0xFF, 0xFE, 0, 0] ++ bs) = some (false, bs) := rfl

end Unicode

/-! ## What is written is read -/

namespace Writer

variable {w : Writer} {text : List Char} {bs : List (List UInt8)}

/-- Whoever reads the bytes of a text in the charset sees the text. -/
def IsReadIn (w : Writer) (coding : Coding) : Prop :=
  ∀ text bs, text.mapM w.bytes? = some bs →
    ∀ name, Charset.decode ⟨name, coding⟩ (w.mark ++ bs.flatten) = .ok text

theorem mapM_bytes?_cons {c : Char} :
    (c :: text).mapM w.bytes? = some bs ↔
      ∃ b bs', w.bytes? c = some b ∧ text.mapM w.bytes? = some bs' ∧ b :: bs' = bs := by
  simp only [List.mapM_cons, Option.bind_eq_bind, Option.bind_eq_some_iff, Option.pure_def,
    Option.some.injEq, exists_and_left]

/-- Where every character has bytes. -/
theorem flatten_eq_flatMap {f : Char → List UInt8} (hw : ∀ c, w.bytes? c = some (f c))
    (h : text.mapM w.bytes? = some bs) : bs.flatten = text.flatMap f := by
  induction text generalizing bs with
  | nil => simp_all
  | cons c text ih =>
    obtain ⟨b, bs', hb, hbs', rfl⟩ := mapM_bytes?_cons.1 h
    rw [List.flatten_cons, List.flatMap_cons, ih hbs', Option.some.inj ((hw c).symm.trans hb)]

/-- Where every character has one byte, it is enough that single bytes are read. -/
theorem mapM_flatten_of_narrow {limit : Nat} {read : UInt8 → Option Char}
    (hread : ∀ c : Char, c.toNat < limit → read (UInt8.ofNat c.toNat) = some c)
    (h : text.mapM (narrow limit).bytes? = some bs) : bs.flatten.mapM read = some text := by
  induction text generalizing bs with
  | nil => simp_all
  | cons c text ih =>
    obtain ⟨b, bs', hb, hbs', rfl⟩ := mapM_bytes?_cons.1 h
    simp only [narrow, Option.ite_none_right_eq_some, Option.some.injEq] at hb
    obtain ⟨hc, rfl⟩ := hb
    simp [hread c hc, ih hbs']

theorem isReadIn_utf8 : utf8.IsReadIn (.everything Unicode.ofUtf8) := fun text bs h _ => by
  rw [flatten_eq_flatMap (fun _ => rfl) h]
  exact Unicode.ofUtf8_flatMap_utf8EncodeChar text

theorem isReadIn_utf16 : utf16.IsReadIn (.everything (Unicode.ofMarked 2 Unicode.ofUnits16?)) :=
    fun text bs h _ => by
  have hunits : ∀ u ∈ text.flatMap units16, u < 256 ^ 2 := by
    intro u hu
    obtain ⟨c, -, hc⟩ := List.mem_flatMap.1 hu
    have hbound := toNat_lt_last c
    unfold units16 at hc
    split at hc <;> simp at hc <;> omega
  have hbytes : bs.flatten = (text.flatMap units16).flatMap (lowFirst 2) := by
    rw [flatten_eq_flatMap (fun _ => rfl) h, List.flatMap_assoc]
  have hread := Unicode.units?_flatMap_lowFirst (by decide) hunits
  simp only [Charset.decode, Unicode.ofMarked, utf16, Unicode.markOf?_utf16, hbytes, hread,
    Option.bind_some, Unicode.ofUnits16?_flatMap_units16]
  rfl

theorem isReadIn_utf32 : utf32.IsReadIn (.everything (Unicode.ofMarked 4 Unicode.ofUnits32?)) :=
    fun text bs h _ => by
  have hunits : ∀ u ∈ text.map Char.toNat, u < 256 ^ 4 := by
    intro u hu
    obtain ⟨c, -, rfl⟩ := List.mem_map.1 hu
    exact Nat.lt_trans (toNat_lt_last c) (by decide)
  have hbytes : bs.flatten = (text.map Char.toNat).flatMap (lowFirst 4) := by
    rw [flatten_eq_flatMap (fun _ => rfl) h, List.flatMap_map]
  have hread := Unicode.units?_flatMap_lowFirst (by decide) hunits
  simp only [Charset.decode, Unicode.ofMarked, utf32, Unicode.markOf?_utf32, hbytes, hread,
    Option.bind_some, Unicode.ofUnits32?_map_toNat]
  rfl

theorem isReadIn_codePointsBelow {limit : Nat} (hlimit : limit ≤ 256) :
    (narrow limit).IsReadIn (.codePointsBelow limit) := fun text bs h _ => by
  simp only [Charset.decode, narrow, List.nil_append]
  refine congrArg orInvalid (mapM_flatten_of_narrow (fun c hc => ?_) h)
  rw [UInt8.toNat_ofNat_of_lt' (show c.toNat < 256 by omega), if_pos hc, Char.ofNat_toNat]

/-- The page of ISO-8859-1 has the code points of its bytes. -/
theorem toList_iso88591 :
    Pages.iso88591.toList = (List.range 128).map fun n => Char.ofNat (n + 128) := by
  decide +kernel

theorem ofPage?_iso88591 {c : Char} (hupper : 128 ≤ c.toNat) (hc : c.toNat < 256) :
    Charset.ofPage? Pages.iso88591.toList (c.toNat - 128) = some c := by
  have hget : ((List.range 128).map fun n => Char.ofNat (n + 128))[c.toNat - 128]? = some c := by
    rw [List.getElem?_map, List.getElem?_range (by omega), Option.map_some,
      Nat.sub_add_cancel hupper, Char.ofNat_toNat]
  have hassigned : (c != Charset.unassigned) = true := by
    rw [bne_iff_ne]
    rintro rfl
    exact absurd hc (by decide)
  simp only [Charset.ofPage?, toList_iso88591, hget, Option.filter_some, hassigned, if_true]

theorem isReadIn_iso88591 : (narrow 256).IsReadIn (.asciiPage Pages.iso88591) :=
    fun text bs h _ => by
  simp only [Charset.decode, narrow, List.nil_append]
  refine congrArg orInvalid (mapM_flatten_of_narrow (fun c hc => ?_) h)
  rw [UInt8.toNat_ofNat_of_lt' hc, Char.ofNat_toNat]
  split
  · rfl
  · next hupper => exact ofPage?_iso88591 (by omega) hc

/-! ## The charsets for markup -/

theorem mem_of_filter_eq {key name : String} {coding : Coding}
    (rows : List (String × String × Coding))
    (hrows : charsetTable.filter (fun row => row.2.1 == name) = rows)
    (hrow : (key, name, coding) ∈ charsetTable) : (key, name, coding) ∈ rows := by
  rw [← hrows, List.mem_filter]
  exact ⟨hrow, beq_self_eq_true name⟩

/-- Which codings the charsets with the writers have; ISO-8859-1 is there as a page and as the first
code points. -/
theorem coding_of_mem_writers {key name : String} {coding : Coding}
    (hrow : (key, name, coding) ∈ charsetTable) (hw : (name, w) ∈ writers) :
    (w, coding) ∈ [(utf8, .everything Unicode.ofUtf8),
      (utf16, .everything (Unicode.ofMarked 2 Unicode.ofUnits16?)),
      (utf32, .everything (Unicode.ofMarked 4 Unicode.ofUnits32?)),
      (narrow 128, .codePointsBelow 128), (narrow 256, .codePointsBelow 256),
      (narrow 256, .asciiPage Pages.iso88591)] := by
  simp only [writers, List.mem_cons, Prod.mk.injEq, List.not_mem_nil, or_false] at hw
  obtain ⟨rfl, rfl⟩ | ⟨rfl, rfl⟩ | ⟨rfl, rfl⟩ | ⟨rfl, rfl⟩ | ⟨rfl, rfl⟩ := hw
  · have hmem := mem_of_filter_eq [("utf_8", _, .everything Unicode.ofUtf8)] rfl hrow
    simp_all
  · have hmem := mem_of_filter_eq
      [("utf_16", _, .everything (Unicode.ofMarked 2 Unicode.ofUnits16?))] rfl hrow
    simp_all
  · have hmem := mem_of_filter_eq
      [("utf_32", _, .everything (Unicode.ofMarked 4 Unicode.ofUnits32?))] rfl hrow
    simp_all
  · have hmem := mem_of_filter_eq [("ascii", _, .codePointsBelow 128)] rfl hrow
    simp_all
  · have hmem := mem_of_filter_eq
      [("iso8859_1", _, .asciiPage Pages.iso88591), ("latin_1", _, .codePointsBelow 256)] rfl hrow
    simp only [List.mem_cons, Prod.mk.injEq, List.not_mem_nil, or_false] at hmem ⊢
    tauto

/-- **What a charset for markup writes is read as the same text.** -/
theorem isReadIn_of_mem {key name : String} {coding : Coding}
    (hrow : (key, name, coding) ∈ charsetTable) (hw : (name, w) ∈ writers) :
    w.IsReadIn coding := by
  have hmem := coding_of_mem_writers hrow hw
  simp only [List.mem_cons, Prod.mk.injEq, List.not_mem_nil, or_false] at hmem
  obtain ⟨rfl, rfl⟩ | ⟨rfl, rfl⟩ | ⟨rfl, rfl⟩ | ⟨rfl, rfl⟩ | ⟨rfl, rfl⟩ | ⟨rfl, rfl⟩ := hmem
  · exact isReadIn_utf8
  · exact isReadIn_utf16
  · exact isReadIn_utf32
  · exact isReadIn_codePointsBelow (by decide)
  · exact isReadIn_codePointsBelow (by decide)
  · exact isReadIn_iso88591

theorem pageHas_iso88591 (c : Char) :
    Charset.pageHas Pages.iso88591 c = decide (128 ≤ c.toNat ∧ c.toNat < 256) := by
  rw [Charset.pageHas, toList_iso88591, Bool.eq_iff_iff, decide_eq_true_eq]
  simp only [Bool.and_eq_true, bne_iff_ne, List.contains_iff_mem, List.mem_map, List.mem_range]
  constructor
  · rintro ⟨-, n, hn, rfl⟩
    have hvalues : ∀ n < 128, (Char.ofNat (n + 128)).toNat = n + 128 := by decide +kernel
    have hvalue := hvalues n hn
    omega
  · rintro ⟨hupper, hc⟩
    refine ⟨?_, c.toNat - 128, by omega, ?_⟩
    · rintro rfl
      exact absurd hc (by decide)
    · rw [Nat.sub_add_cancel hupper, Char.ofNat_toNat]

/-- **A charset for markup represents the characters that have bytes.** -/
theorem represents_eq_fits {key name : String} {coding : Coding}
    (hrow : (key, name, coding) ∈ charsetTable) (hw : (name, w) ∈ writers) (c : Char) :
    Charset.represents ⟨name, coding⟩ c = w.fits c := by
  have hnarrow (limit : Nat) : (narrow limit).fits c = decide (c.toNat < limit) := by
    simp only [fits, narrow]
    split <;> simp_all
  have hmem := coding_of_mem_writers hrow hw
  simp only [List.mem_cons, Prod.mk.injEq, List.not_mem_nil, or_false] at hmem
  obtain ⟨rfl, rfl⟩ | ⟨rfl, rfl⟩ | ⟨rfl, rfl⟩ | ⟨rfl, rfl⟩ | ⟨rfl, rfl⟩ | ⟨rfl, rfl⟩ := hmem
  · rfl
  · rfl
  · rfl
  · exact (hnarrow 128).symm
  · exact (hnarrow 256).symm
  · simp only [Charset.represents, hnarrow, pageHas_iso88591]
    rw [Bool.eq_iff_iff]
    simp only [Bool.or_eq_true, decide_eq_true_eq]
    omega

/-- The charsets for markup have ASCII. -/
theorem fits_of_ascii {name : String} (hw : (name, w) ∈ writers) {c : Char}
    (hc : c.toNat < 128) : w.fits c = true := by
  simp only [writers, List.mem_cons, Prod.mk.injEq, List.not_mem_nil, or_false] at hw
  obtain ⟨-, rfl⟩ | ⟨-, rfl⟩ | ⟨-, rfl⟩ | ⟨-, rfl⟩ | ⟨-, rfl⟩ := hw
  · rfl
  · rfl
  · rfl
  · simp [fits, narrow, hc]
  · simp [fits, narrow, Nat.lt_trans hc]

/-- Text whose characters have bytes is written. -/
theorem exists_mapM_bytes? (h : ∀ c ∈ text, w.fits c = true) :
    ∃ bs, text.mapM w.bytes? = some bs := by
  induction text with
  | nil => exact ⟨[], rfl⟩
  | cons c text ih =>
    rw [List.forall_mem_cons] at h
    obtain ⟨b, hb⟩ := Option.isSome_iff_exists.1 h.1
    obtain ⟨bs, hbs⟩ := ih h.2
    exact ⟨b :: bs, mapM_bytes?_cons.2 ⟨b, bs, hb, hbs, rfl⟩⟩

/-- What is written has bytes, if the substitutes have. -/
theorem fits_of_mem_substituted {substitute : Char → List Char}
    (hsubstitute : ∀ c, ∀ d ∈ substitute c, w.fits d = true) {c : Char}
    (hc : c ∈ text.flatMap fun c => if w.fits c then [c] else substitute c) : w.fits c = true := by
  obtain ⟨d, -, hd⟩ := List.mem_flatMap.1 hc
  split at hd
  · next hfit => rwa [List.mem_singleton.1 hd]
  · exact hsubstitute d c hd

/-- **Text is written and read again** with the substitutes in their places, if these have bytes. -/
theorem decode_encode? {key name : String} {coding : Coding}
    (hrow : (key, name, coding) ∈ charsetTable) (hw : (name, w) ∈ writers)
    {substitute : Char → List Char} (hsubstitute : ∀ c, ∀ d ∈ substitute c, w.fits d = true)
    (text : List Char) :
    ∃ bs, w.encode? substitute text = some bs ∧ Charset.decode ⟨name, coding⟩ bs =
      .ok (text.flatMap fun c => if w.fits c then [c] else substitute c) := by
  obtain ⟨bs, hbs⟩ := exists_mapM_bytes? fun c => fits_of_mem_substituted hsubstitute (c := c)
  exact ⟨_, by rw [encode?, hbs, Option.map_some],
    isReadIn_of_mem hrow hw _ bs hbs name⟩

end Writer

end Mustache.Text
