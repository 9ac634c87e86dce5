import ProbeBench.Decimal.Double
import ProbeBench.Proofs.Schedule.Clock

/-!
# The sign of a double

Doubles are compared as the system compares them, and taken apart into sign, exponent and fraction
to be printed and rounded. The two agree about zero.

* `order?_ofBits`: a double compares with zero as its sign and its fraction say.
* `beq_zero_iff`, `lt_zero_iff`: the comparisons with zero, read off a double that was taken apart.
-/

namespace ProbeBench.Decimal

open Float.Model Float.Model.UnpackedFloat

/-- How a double compares with zero; what is no number compares with nothing. -/
def Double.order? : Double → Option Ordering
  | .nan => none
  | .infinite negative => some (if negative then .lt else .gt)
  | .finite negative mantissa _ =>
    some (if mantissa = 0 then .eq else if negative then .lt else .gt)

section Fields

variable (b : BitVec 64)

theorem toNat_unpackExponent :
    (@unpackExponent .binary64 b).toNat = b.toNat / leadingBit % 2048 := by
  simp [unpackExponent, leadingBit, Nat.shiftRight_eq_div_pow]

theorem toNat_unpackMantissa :
    (@unpackMantissa .binary64 b).toNat = b.toNat % leadingBit := by
  simp [unpackMantissa, leadingBit]

theorem toNat_unpackSign : (@unpackSign .binary64 b).toNat = b.toNat / signBit := by
  have bound := b.isLt
  show (b.extractLsb 63 63).toNat = _
  simp only [BitVec.extractLsb_toNat, Nat.shiftRight_eq_div_pow, signBit]
  omega

theorem ofBitVec_unpackSign :
    Sign.ofBitVec (@unpackSign .binary64 b) =
      if decide (signBit ≤ b.toNat) then .negative else .positive := by
  have sign := toNat_unpackSign b
  unfold Sign.ofBitVec
  by_cases below : signBit ≤ b.toNat
  · have some : b.toNat / signBit ≠ 0 := by
      simp only [signBit] at below ⊢
      omega
    rw [if_neg fun zero => some (by rw [← sign, zero]; rfl)]
    simp [below]
  · have none : b.toNat / signBit = 0 := by
      simp only [signBit] at below ⊢
      omega
    rw [if_pos (BitVec.eq_of_toNat_eq (by rw [sign, none]; rfl))]
    simp [below]

/-- **A double compares with zero as its bits say.** -/
theorem order?_ofBits :
    (Double.ofBits b.toNat).order? = (unpack .binary64 b).compare (.zero .positive) := by
  have full : @unpackExponent .binary64 b = -1#_ ↔ b.toNat / leadingBit % 2048 = 2047 := by
    rw [← toNat_unpackExponent]
    exact BitVec.toNat_inj.symm
  have none : @unpackExponent .binary64 b = 0#_ ↔ b.toNat / leadingBit % 2048 = 0 := by
    rw [← toNat_unpackExponent]
    exact BitVec.toNat_inj.symm
  have zero : @unpackMantissa .binary64 b = 0#_ ↔ b.toNat % leadingBit = 0 := by
    rw [← toNat_unpackMantissa]
    exact BitVec.toNat_inj.symm
  unfold UnpackedFloat.unpack Double.ofBits
  dsimp only
  rw [ofBitVec_unpackSign]
  generalize decide (signBit ≤ b.toNat) = negative
  by_cases isFull : b.toNat / leadingBit % 2048 = 2047
  · rw [if_pos isFull, if_pos (full.mpr isFull)]
    by_cases isZero : b.toNat % leadingBit = 0
    · rw [if_pos isZero, if_pos (zero.mpr isZero)]
      cases negative <;> rfl
    · rw [if_neg isZero, if_neg fun h => isZero (zero.mp h)]
      rfl
  · rw [if_neg isFull, if_neg fun h => isFull (full.mp h)]
    by_cases isNone : b.toNat / leadingBit % 2048 = 0
    · rw [if_pos isNone, if_pos (none.mpr isNone)]
      by_cases isZero : b.toNat % leadingBit = 0
      · rw [dif_pos (zero.mpr isZero), isZero]
        rfl
      · rw [dif_neg fun h => isZero (zero.mp h)]
        rw [Double.order?, if_neg isZero]
        cases negative <;> rfl
    · rw [if_neg isNone, if_neg fun h => isNone (none.mp h)]
      have some : leadingBit + b.toNat % leadingBit ≠ 0 := by simp [leadingBit]
      rw [Double.order?, if_neg some]
      cases negative <;> rfl

end Fields

theorem order?_ofFloat (x : Float) :
    (Double.ofFloat x).order? = x.toModel.unpack.compare (.zero .positive) :=
  order?_ofBits x.toModel.toBits.toBitVec

theorem beq_zero_iff (x : Float) : (x == 0.0) = true ↔ (Double.ofFloat x).order? = some .eq := by
  rw [order?_ofFloat, ← unpack_zero]
  exact beq_iff_eq (α := Option Ordering)

theorem lt_zero_iff (x : Float) : x < 0.0 ↔ (Double.ofFloat x).order? = some .lt := by
  rw [order?_ofFloat, lt_iff, unpack_zero]

end ProbeBench.Decimal
