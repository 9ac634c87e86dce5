import ProbeBench.Decimal.Double
import Mathlib.Algebra.Order.Field.Basic
import Mathlib.Algebra.Order.Ring.Rat
import Mathlib.Tactic.Ring

/-!
# The nearest whole number

A double that is finite stands for a rational number. Rounding it gives the whole number that is
nearest to that, and of two that are as near the even one.

* `Double.value?`: the number that a double stands for.
* `IsNearest`: what a number is rounded to.
* `round_of_value`: rounding does that.
-/

namespace ProbeBench.Decimal

/-- The number that a double stands for. -/
def Double.value? : Double → Option ℚ
  | .finite negative mantissa exponent =>
    some ((if negative then -1 else 1) * (mantissa * 2 ^ exponent))
  | _ => none

/-- The nearest whole number, of two that are as near the even one. -/
def IsNearest (value : ℚ) (n : ℤ) : Prop :=
  |value - n| ≤ 1 / 2 ∧ (|value - n| = 1 / 2 → Even n)

theorem IsNearest.neg {value : ℚ} {n : ℤ} (h : IsNearest value n) : IsNearest (-value) (-n) := by
  have same : |-value - ((-n : ℤ) : ℚ)| = |value - n| := by
    rw [← abs_neg]
    push_cast
    congr 1
    ring
  rw [IsNearest, same]
  exact ⟨h.1, fun half => (h.2 half).neg⟩

/-- The number that a quotient stands for. -/
def Fraction.value (f : Fraction) : ℚ := f.num / f.den

/-- How near a whole number is to a quotient is told by whole numbers. -/
theorem Fraction.isNearest_iff {f : Fraction} (filled : 0 < f.den) (n : ℤ) :
    IsNearest f.value n ↔
      2 * ((f.num : ℤ) - n * f.den).natAbs ≤ f.den ∧
        (2 * ((f.num : ℤ) - n * f.den).natAbs = f.den → Even n) := by
  have den : (0 : ℚ) < f.den := by exact_mod_cast filled
  have distance : |f.value - n| = (((f.num : ℤ) - n * f.den).natAbs : ℚ) / f.den := by
    have quotient : f.value - n = (((f.num : ℤ) - n * f.den : ℤ) : ℚ) / f.den := by
      rw [Fraction.value, Int.cast_sub, Int.cast_mul, Int.cast_natCast, Int.cast_natCast, sub_div,
        mul_div_cancel_right₀ _ den.ne']
    rw [quotient, abs_div, abs_of_pos den, Nat.cast_natAbs, Int.cast_abs]
  rw [IsNearest, distance, div_le_div_iff₀ den two_pos, div_eq_div_iff den.ne' two_ne_zero]
  norm_cast
  simp only [one_mul, mul_comm _ 2]

/-- **A quotient is rounded to the nearest whole number.** -/
theorem Fraction.round_nearest {f : Fraction} (filled : 0 < f.den) :
    IsNearest f.value (f.round : ℤ) := by
  have whole := Nat.div_add_mod f.num f.den
  have few := Nat.mod_lt f.num filled
  rw [isNearest_iff filled, Fraction.round]
  generalize f.num / f.den = q at *
  generalize f.num % f.den = r at *
  have product : ((q : ℤ) * f.den) = (f.den * q : ℕ) := by push_cast; ring
  have next : ((q + 1 : ℤ) * f.den) = (f.den * q : ℕ) + f.den := by push_cast; ring
  by_cases below : 2 * r < f.den
  · simp only [if_pos below, product]
    omega
  by_cases above : f.den < 2 * r
  · simp only [if_neg below, if_pos above, Nat.cast_add, Nat.cast_one, next]
    omega
  · simp only [if_neg below, if_neg above]
    rcases Nat.mod_two_eq_zero_or_one q with even | odd
    · rw [even, Nat.add_zero, product, Int.even_iff]
      omega
    · rw [odd, Nat.cast_add, Nat.cast_one, next, Int.even_iff]
      omega

theorem Fraction.value_ofBinary (mantissa : Nat) (exponent : Int) :
    (Fraction.ofBinary mantissa exponent).value = mantissa * 2 ^ exponent := by
  rw [Fraction.value, Fraction.ofBinary]
  cases exponent with
  | ofNat n => simp
  | negSucc n =>
    rw [zpow_negSucc]
    simp [div_eq_mul_inv]

/-- **What is rounded is the number that a double stands for.** -/
theorem roundBinary_nearest (negative : Bool) (mantissa : Nat) (exponent : Int) :
    IsNearest ((if negative then -1 else 1) * (mantissa * 2 ^ exponent))
      (roundBinary negative mantissa exponent) := by
  have filled : 0 < (Fraction.ofBinary mantissa exponent).den := Nat.pow_pos two_pos
  have nearest := Fraction.round_nearest filled
  rw [Fraction.value_ofBinary] at nearest
  cases negative with
  | false => simpa [roundBinary] using nearest
  | true => simpa [roundBinary] using nearest.neg

/-- **A double that stands for a number is rounded.** -/
theorem round_of_value {x : Float} {value : ℚ} (finite : (Double.ofFloat x).value? = some value) :
    ∃ n, round x = .ok n ∧ IsNearest value n := by
  unfold round
  cases h : Double.ofFloat x with
  | finite negative mantissa exponent =>
    rw [h] at finite
    cases finite
    exact ⟨_, rfl, roundBinary_nearest negative mantissa exponent⟩
  | _ =>
    rw [h] at finite
    cases finite

end ProbeBench.Decimal
