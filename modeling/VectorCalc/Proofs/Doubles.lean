import Mathlib.Tactic.SplitIfs
import VectorCalc.Decimal.Binary64

/-!
Integers of 64 bits as doubles. The nearest double to such an integer is finite: its exponent
field stays far below the one of infinity. It is zero only for the integer zero, since otherwise
that field stays far above the one of zero.
-/
namespace VectorCalc.Decimal

set_option autoImplicit false

open Float.Model Float.Model.UnpackedFloat

theorem normal_mantissa_width (mantissa : BitVec 52) :
    Nat.log2 (1#1 ++ mantissa).toNat + 1 = 53 := by
  have below := mantissa.isLt
  have value : (1#1 ++ mantissa).toNat = 2 ^ 52 + mantissa.toNat := by
    rw [BitVec.toNat_append, ← Nat.shiftLeft_add_eq_or_of_lt below]
    rfl
  have first : Nat.log2 (1#1 ++ mantissa).toNat = 52 :=
    (Nat.log2_eq_iff (by omega)).mpr ⟨by omega, by omega⟩
  rw [first]

theorem pack_unpack_normal (bits : BitVec 64)
    (finite : @unpackExponent .binary64 bits ≠ -1#11)
    (normal : @unpackExponent .binary64 bits ≠ 0#11) :
    @unpackExponent .binary64 (UnpackedFloat.pack .binary64 (UnpackedFloat.unpack .binary64 bits)) =
      @unpackExponent .binary64 bits := by
  have below := (@unpackExponent .binary64 bits).isLt
  have field : ((@unpackExponent .binary64 bits).toNat : Int) -
      (Format.binary64.exponentBias + Format.binary64.mantissaBitsWithoutImplicit) +
      Format.binary64.exponentBias + Format.binary64.mantissaBitsWithoutImplicit =
        (@unpackExponent .binary64 bits).toNat := by omega
  have small : ¬2 ^ Format.binary64.exponentBits ≤ (@unpackExponent .binary64 bits).toNat + 1 := by
    intro large
    have capacity : 2 ^ Format.binary64.exponentBits = 2048 := rfl
    have top : (@unpackExponent .binary64 bits).toNat = 2047 := by omega
    exact finite (BitVec.eq_of_toNat_eq top)
  have width : Nat.log2 (1#1 ++ @unpackMantissa .binary64 bits).toNat + 1 =
      Format.binary64.mantissaBits := normal_mantissa_width _
  unfold UnpackedFloat.unpack
  dsimp only
  rw [if_neg finite, if_neg normal]
  unfold UnpackedFloat.pack
  dsimp only
  rw [field, Int.toNat_natCast, if_neg small, if_pos width, unpackExponent_packComponents,
    BitVec.ofNat_toNat, BitVec.setWidth_eq]

theorem pack_unpack_exponent (bits : BitVec 64)
    (finite : @unpackExponent .binary64 bits ≠ -1#11) :
    @unpackExponent .binary64 (UnpackedFloat.pack .binary64 (UnpackedFloat.unpack .binary64 bits)) ≠
      -1#11 := by
  by_cases low : @unpackExponent .binary64 bits = 0#11
  · have zero : (0#11) ≠ -1#11 := by decide
    have one : (1#11) ≠ -1#11 := by decide
    unfold UnpackedFloat.unpack
    dsimp only
    rw [if_neg finite, if_pos low]
    by_cases none : @unpackMantissa .binary64 bits = 0#52
    · rw [dif_pos none]
      unfold UnpackedFloat.pack packedZero
      rw [unpackExponent_packComponents]
      exact zero
    · -- A subnormal number has the exponent of the field one.
      rw [dif_neg none, low]
      unfold UnpackedFloat.pack
      dsimp only
      split_ifs with large normal
      · exact absurd large (by decide)
      · rw [unpackExponent_packComponents]
        exact one
      · rw [unpackExponent_packComponents]
        exact zero
  · rw [pack_unpack_normal bits finite low]
    exact finite

theorem unpack_is_not_infinite (bits : BitVec 64)
    (finite : @unpackExponent .binary64 bits ≠ -1#11) :
    (UnpackedFloat.unpack .binary64 bits).isInf = false := by
  unfold UnpackedFloat.unpack
  dsimp only
  rw [if_neg finite]
  by_cases low : @unpackExponent .binary64 bits = 0#11
  · rw [if_pos low]
    by_cases none : @unpackMantissa .binary64 bits = 0#52
    · rw [dif_pos none]
      rfl
    · rw [dif_neg none]
      rfl
  · rw [if_neg low]
    rfl

theorem unpack_normal_is_not_zero (bits : BitVec 64)
    (finite : @unpackExponent .binary64 bits ≠ -1#11)
    (normal : @unpackExponent .binary64 bits ≠ 0#11) (sign : Sign) :
    (UnpackedFloat.unpack .binary64 bits).beq (.zero sign) = false := by
  unfold UnpackedFloat.unpack
  dsimp only
  rw [if_neg finite, if_neg normal]
  cases Sign.ofBitVec (@unpackSign .binary64 bits) <;> rfl

theorem exponent_field_eq_iff (bits : UInt64) (field : BitVec 11) :
    @unpackExponent .binary64 bits.toBitVec = field ↔
      bits.toNat / 4503599627370496 % 2048 = field.toNat := by
  have value : (@unpackExponent .binary64 bits.toBitVec).toNat =
      bits.toNat / 4503599627370496 % 2048 := by
    simp [unpackExponent, Nat.shiftRight_eq_div_pow]
  rw [← value]
  exact BitVec.toNat_inj.symm

/-- Only an exponent field of all ones can be infinite. -/
theorem of_bits_is_not_infinite (bits : UInt64)
    (finite : bits.toNat / 4503599627370496 % 2048 ≠ 2047) :
    (Float.ofBits bits).isInf = false := by
  have field := mt (exponent_field_eq_iff bits (-1#11)).mp finite
  exact unpack_is_not_infinite _ (pack_unpack_exponent bits.toBitVec field)

/-- A number whose exponent field is neither all zeros nor all ones is not zero. -/
theorem of_bits_is_not_zero (bits : UInt64)
    (finite : bits.toNat / 4503599627370496 % 2048 ≠ 2047)
    (normal : bits.toNat / 4503599627370496 % 2048 ≠ 0) :
    (Float.ofBits bits == 0) = false := by
  have notOnes := mt (exponent_field_eq_iff bits (-1#11)).mp finite
  have notZeros := mt (exponent_field_eq_iff bits 0#11).mp normal
  have kept := pack_unpack_normal bits.toBitVec notOnes notZeros
  exact unpack_normal_is_not_zero _ (kept ▸ notOnes) (kept ▸ notZeros) .positive

theorem rounded_quotient_le (numerator denominator : Nat) :
    roundedQuotient numerator denominator ≤ numerator / denominator + 1 := by
  unfold roundedQuotient
  dsimp only
  have parity := Nat.mod_lt (numerator / denominator) (show 0 < 2 by decide)
  split_ifs <;> omega

/-- The last bit of the nearest double lies at most 53 places below the first bit, and no higher
than the eleventh place for an integer of 64 bits. -/
theorem last_bit_exponent_range (value : Nat) (small : value < 18446744073709551616) :
    (Nat.log2 value : Int) - 53 ≤ lastBitExponent value 1 ∧ lastBitExponent value 1 ≤ 11 := by
  have top : Nat.log2 value ≤ 63 := by
    by_cases none : value = 0
    · subst none
      decide
    · have bits := (Nat.log2_lt none).mpr (show value < 2 ^ 64 from small)
      omega
  have unit : Nat.log2 1 = 0 := by decide
  unfold lastBitExponent
  dsimp only
  rw [unit]
  generalize Nat.log2 value = first at top
  simp only [Int.ofNat_eq_natCast]
  split_ifs <;> omega

theorem magnitude_bits_finite (value : Nat) (small : value < 18446744073709551616) :
    magnitudeBits value 1 < 2047 * 4503599627370496 := by
  unfold magnitudeBits
  split_ifs with none
  · decide
  dsimp only
  obtain ⟨lower, upper⟩ := last_bit_exponent_range value small
  generalize lastBitExponent value 1 = exponent at lower upper
  have size : value < 2 ^ (Nat.log2 value + 1) := Nat.lt_log2_self
  -- Either way at most 54 bits are left of the mantissa.
  have mantissa : (if exponent < 0 then roundedQuotient (value * twoTo (-exponent).toNat) 1
      else roundedQuotient value (1 * twoTo exponent.toNat)) ≤ 2 ^ 54 := by
    split_ifs with fraction
    · have exact_ : roundedQuotient (value * twoTo (-exponent).toNat) 1 =
          value * 2 ^ (-exponent).toNat := by
        unfold roundedQuotient
        simp [Nat.mod_one]
      rw [exact_]
      calc
        value * 2 ^ (-exponent).toNat ≤ 2 ^ (Nat.log2 value + 1) * 2 ^ (-exponent).toNat :=
          Nat.mul_le_mul_right _ (Nat.le_of_lt size)
        _ = 2 ^ (Nat.log2 value + 1 + (-exponent).toNat) := (Nat.pow_add 2 _ _).symm
        _ ≤ 2 ^ 54 := Nat.pow_le_pow_right (by decide) (by omega)
    · have quotient : value / 2 ^ exponent.toNat < 2 ^ 54 := by
        apply Nat.div_lt_of_lt_mul
        calc
          value < 2 ^ (Nat.log2 value + 1) := size
          _ ≤ 2 ^ (exponent.toNat + 54) := Nat.pow_le_pow_right (by decide) (by omega)
          _ = 2 ^ exponent.toNat * 2 ^ 54 := Nat.pow_add 2 _ _
      have rounded := rounded_quotient_le value (1 * twoTo exponent.toNat)
      rw [Nat.one_mul] at rounded ⊢
      exact Nat.le_trans rounded quotient
  have field : (exponent + 1074).toNat ≤ 1085 := by omega
  have shifted : (exponent + 1074).toNat * twoTo 52 ≤ 1085 * 4503599627370496 :=
    Nat.mul_le_mul_right _ field
  generalize (if exponent < 0 then roundedQuotient (value * twoTo (-exponent).toNat) 1
      else roundedQuotient value (1 * twoTo exponent.toNat)) = bits at mantissa ⊢
  omega

theorem of_integer_is_some (value : Int) (small : value.natAbs < 18446744073709551616) :
    ofInteger? value = some (ofInteger value) := by
  have bound := magnitude_bits_finite value.natAbs small
  have finite : (ofInteger value).isInf = false := by
    unfold ofInteger nearest
    apply of_bits_is_not_infinite
    have limit : twoTo 63 = 9223372036854775808 := by decide
    rw [UInt64.toNat_ofNat', limit]
    split_ifs <;> omega
  simp [ofInteger?, finite]

theorem magnitude_bits_normal (value : Nat) (some : value ≠ 0)
    (small : value < 18446744073709551616) : 4503599627370496 ≤ magnitudeBits value 1 := by
  obtain ⟨lower, upper⟩ := last_bit_exponent_range value small
  unfold magnitudeBits
  rw [if_neg some]
  dsimp only
  generalize lastBitExponent value 1 = exponent at lower upper
  have field : 1 ≤ (exponent + 1074).toNat := by omega
  have shifted : 1 * 4503599627370496 ≤ (exponent + 1074).toNat * twoTo 52 :=
    Nat.mul_le_mul_right _ field
  omega

/-- The double of an integer of 64 bits is zero exactly when the integer is. -/
theorem of_integer_eq_zero_iff (value : Int) (small : value.natAbs < 18446744073709551616) :
    (ofInteger value == 0) = true ↔ value = 0 := by
  by_cases none : value = 0
  · subst none
    decide
  · have lower := magnitude_bits_normal value.natAbs (by omega) small
    have upper := magnitude_bits_finite value.natAbs small
    have limit : twoTo 63 = 9223372036854775808 := by decide
    have nonzero : (ofInteger value == 0) = false := by
      unfold ofInteger nearest
      apply of_bits_is_not_zero
      · rw [UInt64.toNat_ofNat', limit]
        split_ifs <;> omega
      · rw [UInt64.toNat_ofNat', limit]
        split_ifs <;> omega
    simp [nonzero, none]

end VectorCalc.Decimal
