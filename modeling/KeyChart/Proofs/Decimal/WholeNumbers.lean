import Mathlib

/-!
# Whole numbers as floats

A positive whole number is at least one as a float, however it is rounded, so nothing is
divided by zero where a positive number divides. "At least one" is kept by everything that a
conversion does: a mantissa of 53 bits is cut out and rounded, two floats are multiplied, and
the float is written into 64 bits and read again.
-/

namespace KeyChart.Decimal

open Float.Model
open Float.Model.UnpackedFloat hiding pack unpack mul round normalize

/-- The floats that are at least one, taken apart. -/
inductive AtLeastOne : UnpackedFloat → Prop where
  | infinity : AtLeastOne (.infinity .positive)
  | finite {m : Nat} {e : Int} (hpos : 0 < m) (hm : m.log2 = 52) (he : -52 ≤ e) :
    AtLeastOne (.finite .positive m e hpos)

/-! ## Rounding -/

theorem mantissa_shiftRight (em : ExtendedMantissa) (n : Nat) :
    (em >>> n).mantissa = em.mantissa / 2 ^ n := by
  show (n.repeat ExtendedMantissa.shiftRightOne em).mantissa = _
  induction n with
  | zero => simp [Nat.repeat]
  | succ n ih =>
    rw [Nat.repeat, ExtendedMantissa.shiftRightOne, ih, Nat.div_div_eq_div_mul, Nat.pow_succ]

theorem mantissa_ofMantissaAndAccuracy (m : Nat) (acc : Accuracy) :
    (ExtendedMantissa.ofMantissaAndAccuracy m acc).mantissa = m := by
  cases acc with
  | exact => rfl
  | inexact o => cases o <;> rfl

theorem le_roundedMantissa (em : ExtendedMantissa) : em.mantissa ≤ em.roundedMantissa := by
  unfold ExtendedMantissa.roundedMantissa
  cases em.accuracy with
  | exact => exact Nat.le_refl _
  | inexact o => cases o <;> simp [Accuracy.roundToNearestEven]

variable {m : Nat} {e : Int}

/-- Of a mantissa with enough bits just the leading 53 are kept. -/
theorem shiftToTargetExponent_spec (hm : 52 ≤ m.log2) (he : 0 ≤ m.log2 + e) (acc : Accuracy) :
    (shiftToTargetExponent Format.binary64 m e acc).1.mantissa.log2 = 52 ∧
      -52 ≤ (shiftToTargetExponent Format.binary64 m e acc).2 := by
  have hshift : (Format.binary64.targetExponent (totalExponent m e) - e).toNat = m.log2 - 52 := by
    simp only [Format.targetExponent, totalExponent, Format.mantissaBits, Format.minExponent]
    omega
  have hpos : m ≠ 0 := by
    rintro rfl
    exact absurd hm (by decide)
  obtain ⟨hlow, hhigh⟩ := (Nat.log2_eq_iff hpos).mp rfl
  simp only [shiftToTargetExponent, shiftToExponent, hshift, mantissa_shiftRight,
    mantissa_ofMantissaAndAccuracy]
  constructor
  · have hbits : 52 + (m.log2 - 52) = m.log2 ∧ 53 + (m.log2 - 52) = m.log2 + 1 := by omega
    have hdiv : 2 ^ 52 ≤ m / 2 ^ (m.log2 - 52) ∧ m / 2 ^ (m.log2 - 52) < 2 ^ 53 := by
      rw [Nat.le_div_iff_mul_le (Nat.two_pow_pos _), Nat.div_lt_iff_lt_mul (Nat.two_pow_pos _),
        ← Nat.pow_add, ← Nat.pow_add, hbits.1, hbits.2]
      exact ⟨hlow, hhigh⟩
    exact (Nat.log2_eq_iff (by omega)).mpr hdiv
  · omega

theorem atLeastOne_round (hm : 52 ≤ m.log2) (he : 0 ≤ m.log2 + e) (acc : Accuracy) :
    AtLeastOne (roundWithAccuracy Format.binary64 .positive m e acc) := by
  obtain ⟨hlog, hexponent⟩ := shiftToTargetExponent_spec hm he acc
  unfold roundWithAccuracy
  generalize shiftToTargetExponent Format.binary64 m e acc = first at hlog hexponent
  obtain ⟨em, e₁⟩ := first
  dsimp only at hlog hexponent ⊢
  have hrounded : 52 ≤ em.roundedMantissa.log2 := by
    have hpos : em.mantissa ≠ 0 := by
      intro hzero
      rw [hzero] at hlog
      exact absurd hlog (by decide)
    have hbit := (Nat.le_log2 hpos).mp (Nat.le_of_eq hlog.symm)
    have hle := le_roundedMantissa em
    exact (Nat.le_log2 (by omega)).mpr (Nat.le_trans hbit hle)
  -- Rounding up may have made one bit too many, which the second shift drops.
  obtain ⟨hlog', hexponent'⟩ := shiftToTargetExponent_spec (e := e₁) hrounded (by omega) .exact
  split
  case isTrue hzero =>
    rw [hzero] at hlog'
    exact absurd hlog' (by decide)
  case isFalse => exact .finite _ hlog' hexponent'

theorem mul_finite {spec : Format} {m m' : Nat} {e e' : Int} (hm : 0 < m) (hm' : 0 < m') :
    UnpackedFloat.mul spec (.finite .positive m e hm) (.finite .positive m' e' hm') =
      roundWithAccuracy spec .positive (m * m') (e + e') .exact := rfl

theorem atLeastOne_mul {f g : UnpackedFloat} (hf : AtLeastOne f) (hg : AtLeastOne g) :
    AtLeastOne (UnpackedFloat.mul Format.binary64 f g) := by
  cases hf with
  | infinity =>
    cases hg with
    | infinity => exact .infinity
    | finite => exact .infinity
  | @finite m e hpos hm he =>
    cases hg with
    | infinity => exact .infinity
    | @finite m' e' hpos' hm' he' =>
      have hlow := (Nat.le_log2 (Nat.ne_of_gt hpos)).mp (Nat.le_of_eq hm.symm)
      have hlow' := (Nat.le_log2 (Nat.ne_of_gt hpos')).mp (Nat.le_of_eq hm'.symm)
      have hlog : 104 ≤ (m * m').log2 := by
        rw [Nat.le_log2 (Nat.ne_of_gt (Nat.mul_pos hpos hpos')), Nat.pow_add 2 52 52]
        exact Nat.mul_le_mul hlow hlow'
      rw [mul_finite]
      exact atLeastOne_round (by omega) (by omega) .exact

/-! ## Written into 64 bits -/

theorem toNat_append_pos {n : Nat} (m : BitVec n) : 0 < (1#1 ++ m).toNat := by
  simp

/-- A float whose exponent is neither the least nor the greatest is read as it is written. -/
theorem unpack_packComponents_positive {spec : Format} {e : BitVec spec.exponentBits}
    (hones : e ≠ -1#_) (hzeros : e ≠ 0#_) (m : BitVec spec.mantissaBitsWithoutImplicit) :
    UnpackedFloat.unpack spec (packComponents spec .positive e m) =
      .finite .positive (1#1 ++ m).toNat
        ((e.toNat : Int) - (spec.exponentBias + spec.mantissaBitsWithoutImplicit))
        (toNat_append_pos m) := by
  simp only [UnpackedFloat.unpack, unpackExponent_packComponents, unpackMantissa_packComponents,
    unpackSign_packComponents, Sign.ofBitVec_toBitVec, if_neg hones, if_neg hzeros]

/-- The bit that is not written makes 53 of 52. -/
theorem log2_append (m : BitVec 52) : (1#1 ++ m).toNat.log2 = 52 := by
  have hm := m.isLt
  rw [BitVec.toNat_append, ← Nat.shiftLeft_add_eq_or_of_lt hm, Nat.shiftLeft_eq]
  refine (Nat.log2_eq_iff (by simp)).mpr ?_
  simp only [BitVec.toNat_ofNat]
  omega

theorem atLeastOne_unpack_packComponents {b : Nat} (hlow : 1023 ≤ b) (hhigh : b + 1 < 2048)
    (m : BitVec 52) : AtLeastOne (UnpackedFloat.unpack Format.binary64
      (packComponents Format.binary64 .positive (BitVec.ofNat 11 b) m)) := by
  have hb : (BitVec.ofNat 11 b).toNat = b := by
    rw [BitVec.toNat_ofNat, Nat.mod_eq_of_lt (by omega)]
  have hones : BitVec.ofNat 11 b ≠ -1#11 := by
    intro h
    have h := congrArg BitVec.toNat h
    simp only [hb, BitVec.neg_one_eq_allOnes, BitVec.toNat_allOnes] at h
    omega
  have hzeros : BitVec.ofNat 11 b ≠ 0#11 := by
    intro h
    have h := congrArg BitVec.toNat h
    simp only [hb, BitVec.toNat_zero] at h
    omega
  rw [unpack_packComponents_positive hones hzeros]
  refine .finite _ (log2_append m) ?_
  show -52 ≤ ((BitVec.ofNat 11 b).toNat : Int) - (1023 + 52)
  rw [hb]
  omega

/-- A float that is at least one is so in 64 bits, where it may have become infinite. -/
theorem atLeastOne_unpack_pack {f : UnpackedFloat} (h : AtLeastOne f) :
    AtLeastOne (UnpackedFloat.unpack Format.binary64 (UnpackedFloat.pack Format.binary64 f)) := by
  have hinfinity : UnpackedFloat.unpack Format.binary64
      (packedInfinity Format.binary64 .positive) = .infinity .positive := rfl
  cases h with
  | infinity =>
    rw [UnpackedFloat.pack, hinfinity]
    exact .infinity
  | @finite m e hpos hm he =>
    have hbias : (Format.binary64.exponentBias : Int) = 1023 := rfl
    simp only [UnpackedFloat.pack]
    split
    · rw [hinfinity]
      exact .infinity
    · rw [if_pos (by rw [hm]; rfl)]
      exact atLeastOne_unpack_packComponents (by omega) (by omega) _

/-! ## Conversions -/

variable {n : Nat}

theorem log2_shiftLeft (h : 0 < n) (k : Nat) : (n <<< k).log2 = n.log2 + k := by
  induction k with
  | zero => rfl
  | succ k ih =>
    have hpos : n <<< k ≠ 0 := by
      rw [Nat.shiftLeft_eq]
      exact Nat.ne_of_gt (Nat.mul_pos h (Nat.two_pow_pos k))
    rw [Nat.shiftLeft_succ, Nat.log2_two_mul hpos, ih]
    rfl

/-- A number of fewer than 53 bits gets as many zeros as it lacks. -/
theorem atLeastOne_ofNat (h : 0 < n) : AtLeastOne (UnpackedFloat.ofNat Format.binary64 n) := by
  have hcompare : compare (n : Int) 0 = .gt := Int.compare_eq_gt.mpr (by omega)
  have hpositive : UnpackedFloat.ofNat Format.binary64 n =
      UnpackedFloat.round Format.binary64 .positive n 0 := by
    rw [UnpackedFloat.ofNat, UnpackedFloat.ofInt, UnpackedFloat.normalize, hcompare]
    rfl
  have htarget : Format.binary64.targetExponent (totalExponent n 0) = n.log2 - 52 := by
    simp only [Format.targetExponent, totalExponent, Format.mantissaBits, Format.minExponent]
    omega
  have hlog : (n <<< (0 - ((n.log2 : Int) - 52)).toNat).log2 = n.log2 + (52 - n.log2) := by
    rw [log2_shiftLeft h]
    omega
  rw [hpositive]
  simp only [UnpackedFloat.round, decreaseExponent, htarget]
  exact atLeastOne_round (by omega) (by omega) .exact

theorem atLeastOne_unpack_ofNat (h : 0 < n) : AtLeastOne (Float.ofNat n).toModel.unpack := by
  have hscientific : Float.ofNat n = Float.ofScientific n false 0 := rfl
  rw [hscientific, Float.ofScientific]
  split
  -- A number of 53 bits is converted as such and multiplied by one.
  · have hbits : UnpackedFloat.unpack Format.binary64 (0x3FF0000000000000 : UInt64).toBitVec =
        .finite .positive (2 ^ 52) (-52) (by decide) := rfl
    have hone : AtLeastOne (Float.ofBits 0x3FF0000000000000).toModel.unpack := by
      refine atLeastOne_unpack_pack ?_
      rw [hbits]
      exact .finite _ (by decide) (by decide)
    have hn : n.toUInt64.toNat = n := by
      rw [Nat.toUInt64_eq, UInt64.toNat_ofNat']
      omega
    have hword : AtLeastOne n.toUInt64.toFloat.toModel.unpack := by
      refine atLeastOne_unpack_pack ?_
      rw [UnpackedFloat.ofUInt64, hn]
      exact atLeastOne_ofNat h
    exact atLeastOne_unpack_pack (atLeastOne_mul hword hone)
  -- A larger one is rounded after a multiplication by the power of ten, which is one.
  · refine atLeastOne_unpack_pack ?_
    have hpow : (2 : Int) ^ Format.binary64.exponentBits = 2048 := rfl
    show AtLeastOne (UnpackedFloat.ofScientific Format.binary64 n 0)
    rw [UnpackedFloat.ofScientific, dif_neg (Nat.ne_of_gt h), if_neg (by decide),
      if_neg (by rw [hpow]; omega), if_pos (by decide), mul_finite]
    have hlog : (n <<< Format.binary64.mantissaBits * 10 ^ (0 : Int).toNat).log2 =
        n.log2 + 53 := by
      rw [← log2_shiftLeft h 53]
      exact congrArg Nat.log2 (Nat.mul_one _)
    refine atLeastOne_round ?_ ?_ .exact
    · rw [hlog]
      omega
    · rw [hlog]
      show 0 ≤ ((n.log2 + 53 : Nat) : Int) + (-53 + 0)
      omega

/-- No positive whole number equals zero as a float. -/
theorem ofNat_beq_zero (h : 0 < n) : (Float.ofNat n == 0) = false := by
  have hn := atLeastOne_unpack_ofNat h
  have hzero : (0 : Float).toModel.unpack = .zero .positive := rfl
  show UnpackedFloat.beq _ _ = false
  rw [hzero]
  generalize (Float.ofNat n).toModel.unpack = f at hn
  cases hn with
  | infinity => rfl
  | finite => rfl

end KeyChart.Decimal
