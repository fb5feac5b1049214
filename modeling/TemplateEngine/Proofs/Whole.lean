import Mathlib
import TemplateEngine.Number

/-!
# Whole numbers

An integer of at most 53 bits loses nothing when it becomes a number: its mantissa is shifted to
full width, which no rounding changes, and packing keeps every part of it.  The integer that
the number is read back as is the one it was made of.
-/

namespace TemplateEngine.Number

open Float.Model Float.Model.UnpackedFloat

/-! ## Mantissas of full width -/

/-- A mantissa of full width stays where it is, unless it is below the least place. -/
theorem targetExponent_total {mantissa : Nat} {exponent : Int} (wide : mantissa.log2 = 52)
    (least : -52 ≤ exponent) :
    Format.binary64.targetExponent (totalExponent mantissa exponent) = exponent := by
  unfold Format.targetExponent totalExponent Format.minExponent Format.mantissaBits
  rw [wide]
  norm_num
  omega

/-- So no bit of it is dropped. -/
theorem shiftToTargetExponent_of_wide {mantissa : Nat} {exponent : Int}
    (wide : mantissa.log2 = 52) (least : -52 ≤ exponent) :
    shiftToTargetExponent .binary64 mantissa exponent .exact =
      (⟨mantissa, false, false⟩, exponent) := by
  unfold shiftToTargetExponent shiftToExponent
  simp only [targetExponent_total wide least, sub_self, Int.toNat_zero]
  simp [HShiftRight.hShiftRight, Nat.repeat, ExtendedMantissa.ofMantissaAndAccuracy]

theorem roundWithAccuracy_of_wide {mantissa : Nat} {exponent : Int} (sign : Sign)
    (positive : 0 < mantissa) (wide : mantissa.log2 = 52) (least : -52 ≤ exponent) :
    roundWithAccuracy .binary64 sign mantissa exponent .exact =
      .finite sign mantissa exponent positive := by
  have rounded : (⟨mantissa, false, false⟩ : ExtendedMantissa).roundedMantissa = mantissa := rfl
  unfold roundWithAccuracy
  simp only [shiftToTargetExponent_of_wide wide least, rounded]
  rw [dif_neg (Nat.pos_iff_ne_zero.1 positive)]

theorem log2_shiftLeft {mantissa : Nat} (positive : mantissa ≠ 0) (count : Nat) :
    (mantissa <<< count).log2 = mantissa.log2 + count := by
  rw [Nat.log2_eq_iff (by simpa [Nat.shiftLeft_eq] using positive), Nat.shiftLeft_eq]
  obtain ⟨least, most⟩ := (Nat.log2_eq_iff positive).1 rfl
  constructor
  · rw [pow_add]
    exact Nat.mul_le_mul_right _ least
  · rw [show mantissa.log2 + count + 1 = mantissa.log2 + 1 + count by omega, pow_add]
    exact Nat.mul_lt_mul_of_pos_right most (Nat.two_pow_pos count)

/-- A whole number of at most 53 bits is rounded to itself, shifted to full width. -/
theorem round_eq {mantissa : Nat} (sign : Sign) (positive : 0 < mantissa)
    (small : mantissa < 2 ^ 53) :
    ∃ shifted : 0 < mantissa <<< (52 - mantissa.log2),
      UnpackedFloat.round .binary64 sign mantissa 0 =
        .finite sign (mantissa <<< (52 - mantissa.log2)) (-(52 - mantissa.log2 : Nat)) shifted := by
  have nonzero := Nat.pos_iff_ne_zero.1 positive
  have least : mantissa.log2 ≤ 52 := Nat.lt_succ_iff.1 ((Nat.log2_lt nonzero).2 small)
  have wide : (mantissa <<< (52 - mantissa.log2)).log2 = 52 := by
    rw [log2_shiftLeft nonzero]
    omega
  have target : Format.binary64.targetExponent (totalExponent mantissa 0) =
      -(52 - mantissa.log2 : Nat) := by
    unfold Format.targetExponent totalExponent Format.minExponent Format.mantissaBits
    norm_num
    omega
  have shifted : 0 < mantissa <<< (52 - mantissa.log2) := by
    rw [Nat.shiftLeft_eq]
    exact Nat.mul_pos positive (Nat.two_pow_pos _)
  refine ⟨shifted, ?_⟩
  unfold UnpackedFloat.round decreaseExponent
  rw [target]
  simp only [sub_neg_eq_add, zero_add, Int.toNat_natCast, zero_sub]
  exact roundWithAccuracy_of_wide sign shifted wide (by omega)

/-! ## Packed numbers -/

/-- A number of full width is the same after it is packed. -/
theorem unpack_pack_of_wide {mantissa : Nat} {exponent : Int} (sign : Sign)
    (positive : 0 < mantissa) (wide : mantissa.log2 = 52) (least : -52 ≤ exponent)
    (most : exponent ≤ 0) :
    UnpackedFloat.unpack .binary64
        (UnpackedFloat.pack .binary64 (.finite sign mantissa exponent positive)) =
      .finite sign mantissa exponent positive := by
  obtain ⟨lower, upper⟩ := (Nat.log2_eq_iff (Nat.pos_iff_ne_zero.1 positive)).1 wide
  -- The exponent as it is stored, which is neither the least nor the greatest one.
  obtain ⟨biased, isBiased⟩ : ∃ biased : Nat, (biased : Int) = exponent + 1075 :=
    ⟨(exponent + 1075).toNat, Int.toNat_of_nonneg (by omega)⟩
  have packed : UnpackedFloat.pack .binary64 (.finite sign mantissa exponent positive) =
      packComponents .binary64 sign (BitVec.ofNat 11 biased) (BitVec.ofNat 52 mantissa) := by
    have within : (exponent + Format.binary64.exponentBias +
        Format.binary64.mantissaBitsWithoutImplicit).toNat = biased := by
      simp [Format.exponentBias]
      omega
    unfold UnpackedFloat.pack
    simp only [within]
    rw [if_neg (by norm_num; omega), if_pos (by rw [wide]; rfl)]
  have exponents : (BitVec.ofNat 11 biased).toNat = biased := by
    rw [BitVec.toNat_ofNat]
    omega
  have mantissas : (1#1 ++ BitVec.ofNat 52 mantissa).toNat = mantissa := by
    rw [BitVec.toNat_append, BitVec.toNat_ofNat, ← Nat.shiftLeft_add_eq_or_of_lt]
    · simp [Nat.shiftLeft_eq]
      omega
    · exact Nat.mod_lt _ (by positivity)
  have notGreatest : BitVec.ofNat 11 biased ≠ -1#_ := by
    intro same
    have := congrArg BitVec.toNat same
    rw [exponents] at this
    simp at this
    omega
  have notLeast : BitVec.ofNat 11 biased ≠ 0#_ := by
    intro same
    have := congrArg BitVec.toNat same
    rw [exponents] at this
    simp at this
    omega
  rw [packed]
  unfold UnpackedFloat.unpack
  dsimp only
  rw [if_neg (by rwa [unpackExponent_packComponents]),
    if_neg (by rwa [unpackExponent_packComponents])]
  congr 1
  · rw [unpackSign_packComponents, Sign.ofBitVec_toBitVec]
  · rw [unpackMantissa_packComponents, mantissas]
  · rw [unpackExponent_packComponents, exponents]
    simp [Format.exponentBias]
    omega

/-! ## Whole numbers -/

/-- A magnitude with a sign is read back as the integer they make. -/
theorem integer?_ofMagnitude {magnitude : Nat} (sign : Sign) (positive : 0 < magnitude)
    (small : magnitude < 2 ^ 53) :
    integer? (.ofModel (.pack (UnpackedFloat.round .binary64 sign magnitude 0))) =
      some (sign.apply magnitude) := by
  obtain ⟨shifted, rounded⟩ := round_eq sign positive small
  have nonzero := Nat.pos_iff_ne_zero.1 positive
  have least : magnitude.log2 ≤ 52 := Nat.lt_succ_iff.1 ((Nat.log2_lt nonzero).2 small)
  have unpacked : (Float.Model.pack (UnpackedFloat.round .binary64 sign magnitude 0)).unpack =
      .finite sign (magnitude <<< (52 - magnitude.log2)) (-(52 - magnitude.log2 : Nat))
        shifted := by
    rw [rounded]
    apply unpack_pack_of_wide sign shifted
    · rw [log2_shiftLeft nonzero]
      omega
    · omega
    · omega
  unfold integer?
  rw [unpacked]
  dsimp only
  simp only [Nat.shiftLeft_eq, neg_neg, Int.toNat_natCast]
  split
  · rename_i whole
    obtain full : 52 - magnitude.log2 = 0 := by omega
    simp [full]
  · have even : magnitude * 2 ^ (52 - magnitude.log2) % Nat.pow 2 (52 - magnitude.log2) = 0 :=
      Nat.mul_mod_left _ _
    rw [if_pos even]
    simp

/-- An integer of at most 53 bits is the integer that its number is. -/
theorem integer?_ofInt {value : Int} (small : value.natAbs < 2 ^ 53) :
    integer? (ofInt value) = some value := by
  have unfolded : ofInt value =
      .ofModel (.pack (UnpackedFloat.normalize .binary64 value 0 .positive)) := rfl
  rw [unfolded]
  unfold UnpackedFloat.normalize
  rcases Int.lt_trichotomy value 0 with negative | rfl | positive
  · rw [compare_lt_iff_lt.2 negative]
    refine (integer?_ofMagnitude .negative (by omega) (by omega)).trans ?_
    simp only [Sign.apply]
    congr 1
    omega
  · rfl
  · rw [compare_gt_iff_gt.2 positive]
    refine (integer?_ofMagnitude .positive (by omega) (by omega)).trans ?_
    simp only [Sign.apply]
    congr 1
    omega

/-- It is within the range of 64 bits. -/
theorem clampedInteger?_of_small {number : Float} {value : Int}
    (whole : integer? number = some value) (small : value.natAbs < 2 ^ 53) :
    clampedInteger? number = some value := by
  have least : leastInteger ≤ value := by
    rw [show leastInteger = -2 ^ 63 from rfl]
    omega
  have greatest : value ≤ greatestInteger := by
    rw [show greatestInteger = 2 ^ 63 - 1 from rfl]
    omega
  rw [clampedInteger?, whole, Option.map_some, min_eq_right greatest, max_eq_right least]

end TemplateEngine.Number
