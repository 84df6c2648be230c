import Mathlib.Algebra.Group.Nat.Defs
import Mathlib.Tactic.Common
import Mustache.Value.Key

/-!
# Equal floating-point numbers

Two floating-point numbers are equal if they are the same, unless they are no numbers, or if both
are zero, whatever their signs. The integer that a number equals determines the number in the same
way, since every finite number has one canonical form. So numbers that equal an integer are equal
just in case they equal the same one.

## Main definitions

* `Mustache.Decimal.fractionOf`, `Mustache.Decimal.biasedOf`, `Mustache.Decimal.signOf` — the parts
  of a number.
* `Mustache.Decimal.Unpacks` — a number as it is compared.
* `Mustache.Decimal.Binary.IsCanonical` — the one form of a finite number.

## Main results

* `Mustache.Decimal.beq_iff` — equal numbers are the same or zero.
* `Mustache.Decimal.beq_iff_of_integerOf?` — numbers that equal an integer are equal if they equal
  the same one.
-/

namespace Mustache.Decimal

open Float.Model (UnpackedFloat Format)
open Float.Model.UnpackedFloat (Sign)

/-! ## The parts of a number -/

/-- The bits of the significand, the first one left out. -/
def fractionOf (x : Float) : Nat := x.toBits.toNat % Binary.leastFull

/-- The bits of the exponent. -/
def biasedOf (x : Float) : Nat := x.toBits.toNat / Binary.leastFull % 2048

/-- The sign. -/
def signOf (x : Float) : Sign := if isNegative x then .negative else .positive

theorem fractionOf_lt (x : Float) : fractionOf x < Binary.leastFull := Nat.mod_lt _ (by decide)

theorem signOf_inj {x y : Float} (h : signOf x = signOf y) : isNegative x = isNegative y := by
  unfold signOf at h
  cases hx : isNegative x <;> cases hy : isNegative y <;> simp [hx, hy] at h ⊢

/-- A number is told from its parts. -/
theorem eq_of_parts {x y : Float} (hfraction : fractionOf x = fractionOf y)
    (hbiased : biasedOf x = biasedOf y) (hsign : isNegative x = isNegative y) : x = y := by
  have hbits : x.toBits.toNat = y.toBits.toNat := by
    have hx := x.toBits.toNat_lt
    have hy := y.toBits.toNat_lt
    unfold isNegative at hsign
    rw [Nat.testBit_eq_decide_div_mod_eq, Nat.testBit_eq_decide_div_mod_eq,
      decide_eq_decide] at hsign
    unfold fractionOf at hfraction
    unfold biasedOf at hbiased
    rw [show Binary.leastFull = 2 ^ 52 from rfl] at hfraction hbiased
    omega
  have htoBits : x.toBits = y.toBits := UInt64.toNat_inj.1 hbits
  rcases x with ⟨⟨bits, _⟩⟩
  rcases y with ⟨⟨bits', _⟩⟩
  obtain rfl : bits = bits' := htoBits
  rfl

theorem Binary.ofFloat?_eq_some_iff {x : Float} {b : Binary} : ofFloat? x = some b ↔
    biasedOf x ≠ 2047 ∧ (biasedOf x = 0 ∧ b = ⟨fractionOf x, -1074⟩ ∨
      biasedOf x ≠ 0 ∧ b = ⟨leastFull + fractionOf x, (biasedOf x : Int) - 1075⟩) := by
  unfold ofFloat?
  change (if biasedOf x = 2047 then none
    else if biasedOf x = 0 then some ⟨fractionOf x, -1074⟩
    else some ⟨leastFull + fractionOf x, (biasedOf x : Int) - 1075⟩) = some b ↔ _
  split <;> rename_i hinfinite
  · simp [hinfinite]
  · split <;> rename_i hsmall <;> simp [hsmall, hinfinite, eq_comm]

/-- Finite numbers of the same size and the same sign are the same. -/
theorem Binary.eq_of_ofFloat? {x y : Float} {b : Binary} (hx : ofFloat? x = some b)
    (hy : ofFloat? y = some b) (hsign : isNegative x = isNegative y) : x = y := by
  have hxlt := fractionOf_lt x
  have hylt := fractionOf_lt y
  obtain ⟨-, hx⟩ := ofFloat?_eq_some_iff.1 hx
  obtain ⟨-, hy⟩ := ofFloat?_eq_some_iff.1 hy
  rcases hx with ⟨hx, rfl⟩ | ⟨hx, rfl⟩ <;> rcases hy with ⟨hy, hb⟩ | ⟨hy, hb⟩ <;>
    rw [Binary.mk.injEq] at hb <;> exact eq_of_parts (by omega) (by omega) hsign

/-! ## Comparing -/

/-- **A number as it is compared.** -/
inductive Unpacks (x : Float) : UnpackedFloat → Prop
  | infinite (biased : biasedOf x = 2047) (fraction : fractionOf x = 0) :
    Unpacks x (.infinity (signOf x))
  | notANumber (biased : biasedOf x = 2047) : Unpacks x .notANumber
  | zero (biased : biasedOf x = 0) (fraction : fractionOf x = 0) : Unpacks x (.zero (signOf x))
  | small (biased : biasedOf x = 0) (pos : 0 < fractionOf x) :
    Unpacks x (.finite (signOf x) (fractionOf x) (-1074) pos)
  | full (biased : biasedOf x ≠ 0) (finite : biasedOf x ≠ 2047)
    (pos : 0 < Binary.leastFull + fractionOf x) :
    Unpacks x (.finite (signOf x) (Binary.leastFull + fractionOf x) (biasedOf x - 1075) pos)

theorem toNat_unpackMantissa (b : BitVec Format.binary64.numBits) :
    (UnpackedFloat.unpackMantissa b).toNat = b.toNat % 2 ^ 52 := by
  unfold UnpackedFloat.unpackMantissa
  simp

theorem toNat_unpackExponent (b : BitVec Format.binary64.numBits) :
    (UnpackedFloat.unpackExponent b).toNat = b.toNat / 2 ^ 52 % 2048 := by
  unfold UnpackedFloat.unpackExponent
  simp [Nat.shiftRight_eq_div_pow]

theorem toNat_unpackSign (b : BitVec Format.binary64.numBits) :
    (UnpackedFloat.unpackSign b).toNat = b.toNat / 2 ^ 63 % 2 := by
  unfold UnpackedFloat.unpackSign
  simp [Nat.shiftRight_eq_div_pow]

/-- The bits of a number, as they are taken apart. -/
def bitsOf (x : Float) : BitVec Format.binary64.numBits := x.toBits.toBitVec

section

variable (x : Float)

theorem ofBitVec_unpackSign : Sign.ofBitVec (UnpackedFloat.unpackSign (bitsOf x)) = signOf x := by
  have hbit : (UnpackedFloat.unpackSign (bitsOf x)).toNat = x.toBits.toNat / 2 ^ 63 % 2 :=
    toNat_unpackSign _
  unfold Sign.ofBitVec signOf isNegative
  simp only [Nat.testBit_eq_decide_div_mod_eq, ← BitVec.toNat_inj, hbit]
  have htwo := Nat.mod_two_eq_zero_or_one (x.toBits.toNat / 2 ^ 63)
  generalize x.toBits.toNat / 2 ^ 63 % 2 = bit at htwo
  rcases htwo with rfl | rfl <;> rfl

theorem unpackExponent_eq_iff (b : BitVec Format.binary64.exponentBits) :
    UnpackedFloat.unpackExponent (bitsOf x) = b ↔ biasedOf x = b.toNat := by
  rw [← BitVec.toNat_inj, toNat_unpackExponent]
  rfl

theorem unpackMantissa_eq_zero_iff :
    UnpackedFloat.unpackMantissa (bitsOf x) = 0#_ ↔ fractionOf x = 0 := by
  rw [← BitVec.toNat_inj, toNat_unpackMantissa]
  rfl

/-- The significand of a number with its first bit. -/
theorem toNat_append_unpackMantissa : (1#1 ++ UnpackedFloat.unpackMantissa (bitsOf x)).toNat =
    Binary.leastFull + fractionOf x := by
  have hlt : fractionOf x < 2 ^ 52 := fractionOf_lt x
  have hmantissa : (UnpackedFloat.unpackMantissa (bitsOf x)).toNat = fractionOf x :=
    toNat_unpackMantissa _
  rw [BitVec.toNat_append, hmantissa, ← Nat.shiftLeft_add_eq_or_of_lt hlt]
  rfl

end

theorem Unpacks.finite_congr {x : Float} {s : Sign} {m m' : Nat} {e e' : Int} {pos : 0 < m}
    (h : Unpacks x (.finite s m e pos)) (hm : m' = m) (he : e' = e) (pos' : 0 < m') :
    Unpacks x (.finite s m' e' pos') := by
  subst hm he
  exact h

theorem unpacks (x : Float) : Unpacks x x.toModel.unpack := by
  have hexponent : (UnpackedFloat.unpackExponent (bitsOf x)).toNat = biasedOf x :=
    toNat_unpackExponent _
  have hall := unpackExponent_eq_iff x (-1#_)
  have hnone := unpackExponent_eq_iff x 0#_
  have hempty := unpackMantissa_eq_zero_iff x
  change Unpacks x (UnpackedFloat.unpack Format.binary64 (bitsOf x))
  unfold UnpackedFloat.unpack
  dsimp only
  rw [ofBitVec_unpackSign, hexponent]
  by_cases hbiased : UnpackedFloat.unpackExponent (bitsOf x) = -1#_
  · rw [if_pos hbiased]
    by_cases hfraction : UnpackedFloat.unpackMantissa (bitsOf x) = 0#_
    · rw [if_pos hfraction]
      exact .infinite (hall.1 hbiased) (hempty.1 hfraction)
    · rw [if_neg hfraction]
      exact .notANumber (hall.1 hbiased)
  · rw [if_neg hbiased]
    by_cases hleast : UnpackedFloat.unpackExponent (bitsOf x) = 0#_
    · rw [if_pos hleast]
      have hzero : biasedOf x = 0 := hnone.1 hleast
      by_cases hfraction : UnpackedFloat.unpackMantissa (bitsOf x) = 0#_
      · rw [dif_pos hfraction]
        exact .zero hzero (hempty.1 hfraction)
      · rw [dif_neg hfraction]
        have hpos : 0 < fractionOf x := Nat.pos_of_ne_zero (hfraction ∘ hempty.2)
        exact (Unpacks.small hzero hpos).finite_congr (toNat_unpackMantissa _)
          (by rw [hzero]; rfl) _
    · rw [if_neg hleast]
      have hpos : 0 < Binary.leastFull + fractionOf x := Nat.add_pos_left (by decide) _
      exact (Unpacks.full (hleast ∘ hnone.2) (hbiased ∘ hall.2) hpos).finite_congr
        (toNat_append_unpackMantissa x) rfl _

/-- Numbers that compare as equal are alike, but for the sign of zero. -/
theorem compare_eq_iff {u v : UnpackedFloat} : u.compare v = some .eq ↔
    (∃ s, u = .infinity s ∧ v = .infinity s) ∨ (∃ s s', u = .zero s ∧ v = .zero s') ∨
      ∃ s m e h, u = .finite s m e h ∧ v = .finite s m e h := by
  constructor
  · intro h
    cases u with
    | notANumber => exact nomatch h
    | infinity s =>
      cases v with
      | infinity s' =>
        cases s <;> cases s' <;> first | exact .inl ⟨_, rfl, rfl⟩ | exact absurd h (by decide)
      | _ => cases s <;> exact nomatch h
    | zero s =>
      cases v with
      | zero s' => exact .inr (.inl ⟨s, s', rfl, rfl⟩)
      | notANumber => exact nomatch h
      | infinity s' => cases s' <;> exact nomatch h
      | finite s' m' e' pos' => cases s' <;> exact nomatch h
    | finite s m e pos =>
      cases v with
      | notANumber => exact nomatch h
      | infinity s' => cases s' <;> exact nomatch h
      | zero s' => cases s <;> exact nomatch h
      | finite s' m' e' pos' =>
        obtain ⟨hcompare, rfl⟩ : (compare e e').then (compare m m') = .eq ∧ s = s' := by
          cases s <;> cases s'
          · exact ⟨Ordering.swap_eq_eq.1 (Option.some.inj h), rfl⟩
          · exact nomatch h
          · exact nomatch h
          · exact ⟨Option.some.inj h, rfl⟩
        obtain ⟨rfl, rfl⟩ : e = e' ∧ m = m' := by simpa [Ordering.then_eq_eq] using hcompare
        exact .inr (.inr ⟨s, m, e, pos, rfl, rfl⟩)
  · rintro (⟨s, rfl, rfl⟩ | ⟨s, s', rfl, rfl⟩ | ⟨s, m, e, h, rfl, rfl⟩)
    · cases s <;> decide
    · rfl
    · cases s with
      | positive =>
        show some ((compare e e).then (compare m m)) = some .eq
        simp
      | negative =>
        show some ((compare e e).then (compare m m)).swap = some .eq
        simp

theorem beq_iff_compare {x y : Float} :
    (x == y) = true ↔ x.toModel.unpack.compare y.toModel.unpack = some .eq := by
  change (x.toModel.unpack.compare y.toModel.unpack == some .eq) = true ↔ _
  exact beq_iff_eq

/-- A number is zero. -/
def IsZero (x : Float) : Prop := biasedOf x = 0 ∧ fractionOf x = 0

/-- A number is no infinity, and it is no "not a number". -/
def IsFinite (x : Float) : Prop := biasedOf x ≠ 2047

theorem IsFinite.beq_self {x : Float} (h : IsFinite x) : (x == x) = true := by
  have hx := unpacks x
  rw [beq_iff_compare, compare_eq_iff]
  generalize x.toModel.unpack = u at hx
  cases hx with
  | infinite biased _ => exact absurd biased h
  | notANumber biased => exact absurd biased h
  | zero _ _ => exact .inr (.inl ⟨_, _, rfl, rfl⟩)
  | small _ _ => exact .inr (.inr ⟨_, _, _, _, rfl, rfl⟩)
  | full _ _ _ => exact .inr (.inr ⟨_, _, _, _, rfl, rfl⟩)

namespace Unpacks

variable {x : Float} {s : Sign}

theorem of_infinity (h : Unpacks x (.infinity s)) :
    signOf x = s ∧ biasedOf x = 2047 ∧ fractionOf x = 0 := by
  cases h with
  | infinite biased fraction => exact ⟨rfl, biased, fraction⟩

theorem of_zero (h : Unpacks x (.zero s)) : IsZero x := by
  cases h with
  | zero biased fraction => exact ⟨biased, fraction⟩

theorem of_finite {m : Nat} {e : Int} {pos : 0 < m} (h : Unpacks x (.finite s m e pos)) :
    signOf x = s ∧ Binary.ofFloat? x = some ⟨m, e⟩ := by
  cases h with
  | small biased _ =>
    exact ⟨rfl, Binary.ofFloat?_eq_some_iff.2 ⟨by omega, .inl ⟨biased, rfl⟩⟩⟩
  | full biased finite _ =>
    exact ⟨rfl, Binary.ofFloat?_eq_some_iff.2 ⟨finite, .inr ⟨biased, rfl⟩⟩⟩

end Unpacks

theorem IsZero.exists_unpack_eq {x : Float} (h : IsZero x) : ∃ s, x.toModel.unpack = .zero s := by
  have hx := unpacks x
  obtain ⟨hbiased, hfraction⟩ := h
  generalize x.toModel.unpack = u at hx
  cases hx with
  | infinite biased _ => omega
  | notANumber biased => omega
  | zero _ _ => exact ⟨_, rfl⟩
  | small _ pos => omega
  | full biased _ _ => omega

/-- **Equal numbers are the same**, or both are zero. -/
theorem beq_iff {x y : Float} :
    (x == y) = true ↔ x = y ∧ (x == x) = true ∨ IsZero x ∧ IsZero y := by
  constructor
  · intro h
    have hcases : x = y ∨ IsZero x ∧ IsZero y := by
      rcases compare_eq_iff.1 (beq_iff_compare.1 h) with
        ⟨s, hx, hy⟩ | ⟨s, s', hx, hy⟩ | ⟨s, m, e, pos, hx, hy⟩
      · obtain ⟨rfl, hbiased, hfraction⟩ := (hx ▸ unpacks x).of_infinity
        obtain ⟨hsign, hbiased', hfraction'⟩ := (hy ▸ unpacks y).of_infinity
        exact .inl (eq_of_parts (hfraction.trans hfraction'.symm) (hbiased.trans hbiased'.symm)
          (signOf_inj hsign.symm))
      · exact .inr ⟨(hx ▸ unpacks x).of_zero, (hy ▸ unpacks y).of_zero⟩
      · obtain ⟨rfl, hb⟩ := (hx ▸ unpacks x).of_finite
        obtain ⟨hsign, hb'⟩ := (hy ▸ unpacks y).of_finite
        exact .inl (Binary.eq_of_ofFloat? hb hb' (signOf_inj hsign.symm))
    rcases hcases with rfl | hzero
    · exact .inl ⟨rfl, h⟩
    · exact .inr hzero
  · rintro (⟨rfl, h⟩ | ⟨hx, hy⟩)
    · exact h
    · obtain ⟨s, hx⟩ := hx.exists_unpack_eq
      obtain ⟨s', hy⟩ := hy.exists_unpack_eq
      exact beq_iff_compare.2 (compare_eq_iff.2 (.inr (.inl ⟨s, s', hx, hy⟩)))

/-! ## Numbers that equal an integer -/

namespace Binary

/-- **The significand is as large as it can be**: it has all its digits, unless the exponent is the
least one. -/
structure IsCanonical (b : Binary) : Prop where
  lt : b.significand < 2 * leastFull
  least : -1074 ≤ b.exponent
  full : leastFull ≤ b.significand ∨ b.exponent = -1074

theorem isCanonical_of_ofFloat? {x : Float} {b : Binary} (h : ofFloat? x = some b) :
    b.IsCanonical := by
  have hfraction := fractionOf_lt x
  rcases ofFloat?_eq_some_iff.1 h with ⟨-, ⟨-, rfl⟩ | ⟨hbiased, rfl⟩⟩
  · exact ⟨by dsimp only; omega, Int.le_refl _, .inr rfl⟩
  · exact ⟨by dsimp only; omega, by dsimp only; omega, .inl (Nat.le_add_right _ _)⟩

/-- How many times the least number is one. -/
def one : Nat := 2 ^ 1074

/-- A number equals an integer. Both are counted in units of the least number. -/
def Equals (b : Binary) (m : Nat) : Prop :=
  b.significand * 2 ^ (b.exponent + 1074).toNat = m * one

theorem Equals.significand_eq_zero {b : Binary} (h : b.Equals 0) : b.significand = 0 := by
  unfold Equals at h
  rw [Nat.zero_mul] at h
  exact (Nat.mul_eq_zero.1 h).resolve_right (Nat.ne_of_gt (Nat.two_pow_pos _))

/-- **A number has one canonical form.** -/
theorem IsCanonical.unique {b b' : Binary} (h : b.IsCanonical) (h' : b'.IsCanonical) {m : Nat}
    (hb : b.Equals m) (hb' : b'.Equals m) : b = b' := by
  -- Of two exponents the lower one would need a significand that is too large.
  have hle {c c' : Binary} (hc : c.IsCanonical) (hc' : c'.IsCanonical) (hcm : c.Equals m)
      (hcm' : c'.Equals m) : c'.exponent ≤ c.exponent := by
    by_contra hlt
    have hleast := hc.least
    obtain ⟨d, hd⟩ : ∃ d, (c'.exponent + 1074).toNat = (c.exponent + 1074).toNat + (d + 1) :=
      ⟨(c'.exponent - c.exponent).toNat - 1, by omega⟩
    have hfull : leastFull ≤ c'.significand := hc'.full.resolve_right (by omega)
    have hsame : c.significand = c'.significand * 2 ^ (d + 1) := by
      apply Nat.eq_of_mul_eq_mul_right (Nat.two_pow_pos (c.exponent + 1074).toNat)
      rw [Nat.mul_assoc, ← Nat.pow_add, Nat.add_comm (d + 1), ← hd]
      exact hcm.trans hcm'.symm
    have htwo : 2 ≤ 2 ^ (d + 1) := by
      have := Nat.two_pow_pos d
      rw [Nat.pow_succ]
      omega
    have hlarge : leastFull * 2 ≤ c'.significand * 2 ^ (d + 1) := Nat.mul_le_mul hfull htwo
    have hlt := hc.lt
    omega
  have hexponent : b.exponent = b'.exponent :=
    Int.le_antisymm (hle h' h hb' hb) (hle h h' hb hb')
  have hsignificand : b.significand = b'.significand := by
    apply Nat.eq_of_mul_eq_mul_right (Nat.two_pow_pos (b.exponent + 1074).toNat)
    refine Eq.trans hb ?_
    rw [hexponent]
    exact hb'.symm
  cases b
  cases b'
  simp_all

end Binary

/-- The integer that a number equals, up to the sign. -/
theorem equals_of_integerOf? {x : Float} {n : Int} (h : integerOf? x = some n) :
    ∃ b, Binary.ofFloat? x = some b ∧ b.Equals n.natAbs ∧
      n = if isNegative x then -(n.natAbs : Int) else n.natAbs := by
  unfold integerOf? at h
  split at h
  · simp at h
  · next b hb =>
    refine ⟨b, hb, ?_⟩
    have hleast := (Binary.isCanonical_of_ofFloat? hb).least
    have habs (m : Nat) : (if isNegative x then -(m : Int) else m).natAbs = m := by
      split <;> simp
    dsimp only at h
    unfold Binary.Equals
    split at h
    · next k hk =>
      obtain rfl := Option.some.inj h
      have hone : 2 ^ (Int.ofNat k + 1074).toNat = 2 ^ k * Binary.one := by
        rw [show (Int.ofNat k + 1074).toNat = k + 1074 from rfl]
        unfold Binary.one
        generalize 1074 = n
        exact Nat.pow_add 2 k n
      rw [habs, hk, Nat.shiftLeft_eq, Nat.mul_assoc, hone]
      exact ⟨rfl, rfl⟩
    · next k hk =>
      split at h
      · next hwhole =>
        obtain rfl := Option.some.inj h
        rw [habs, hk]
        refine ⟨?_, rfl⟩
        rw [hk] at hleast
        have hparts : k + 1 + (Int.negSucc k + 1074).toNat = 1074 := by omega
        have hone : 2 ^ (k + 1) * 2 ^ (Int.negSucc k + 1074).toNat = Binary.one := by
          unfold Binary.one
          generalize 1074 = n at hparts ⊢
          rw [← Nat.pow_add, hparts]
        rw [Nat.one_shiftLeft] at hwhole ⊢
        calc b.significand * 2 ^ (Int.negSucc k + 1074).toNat
            = b.significand / 2 ^ (k + 1) * 2 ^ (k + 1) * 2 ^ (Int.negSucc k + 1074).toNat := by
              rw [Nat.div_mul_cancel (Nat.dvd_of_mod_eq_zero hwhole)]
          _ = b.significand / 2 ^ (k + 1) * Binary.one := by rw [Nat.mul_assoc, hone]
      · simp at h

theorem integerOf?_eq_zero_iff {x : Float} : integerOf? x = some 0 ↔ IsZero x := by
  constructor
  · intro h
    obtain ⟨b, hb, hequals, -⟩ := equals_of_integerOf? h
    have hsignificand : b.significand = 0 := hequals.significand_eq_zero
    rcases Binary.ofFloat?_eq_some_iff.1 hb with ⟨-, ⟨hbiased, rfl⟩ | ⟨-, rfl⟩⟩
    · exact ⟨hbiased, hsignificand⟩
    · have hpos : 0 < Binary.leastFull := by decide
      dsimp only at hsignificand
      omega
  · rintro ⟨hbiased, hfraction⟩
    have hb : Binary.ofFloat? x = some ⟨0, Int.negSucc 1073⟩ :=
      Binary.ofFloat?_eq_some_iff.2 ⟨by omega, .inl ⟨hbiased, by rw [hfraction]; rfl⟩⟩
    unfold integerOf?
    rw [hb]
    simp

/-- **Numbers that equal an integer** are equal just in case they equal the same one. -/
theorem beq_iff_of_integerOf? {x y : Float} {n : Int} (h : integerOf? x = some n) :
    (x == y) = true ↔ integerOf? y = some n := by
  constructor
  · intro hxy
    rcases beq_iff.1 hxy with ⟨rfl, -⟩ | ⟨hx, hy⟩
    · exact h
    · obtain rfl := Option.some.inj (h.symm.trans (integerOf?_eq_zero_iff.2 hx))
      exact integerOf?_eq_zero_iff.2 hy
  · intro hy
    by_cases hn : n = 0
    · subst hn
      exact beq_iff.2 (.inr ⟨integerOf?_eq_zero_iff.1 h, integerOf?_eq_zero_iff.1 hy⟩)
    · obtain ⟨b, hb, hequals, hsign⟩ := equals_of_integerOf? h
      obtain ⟨b', hb', hequals', hsign'⟩ := equals_of_integerOf? hy
      obtain rfl := (Binary.isCanonical_of_ofFloat? hb).unique (Binary.isCanonical_of_ofFloat? hb')
        hequals hequals'
      have hsame : isNegative x = isNegative y := by
        cases hxsign : isNegative x <;> cases hysign : isNegative y <;>
          simp only [hxsign, hysign, if_true, Bool.false_eq_true, if_false] at hsign hsign' <;>
          first | rfl | omega
      obtain rfl := Binary.eq_of_ofFloat? hb hb' hsame
      exact IsFinite.beq_self (Binary.ofFloat?_eq_some_iff.1 hb).1

end Mustache.Decimal
