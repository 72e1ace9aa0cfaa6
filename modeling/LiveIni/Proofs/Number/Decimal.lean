import LiveIni.Number.Decimal
import Mathlib.Algebra.Order.Field.Rat
import Mathlib.Algebra.Order.Field.Power
import Mathlib.Tactic.Ring
import Mathlib.Tactic.FieldSimp
import Mathlib.Tactic.Positivity

/-!
The rational number that a decimal is, whatever its form. It tells which integer the decimal
equals, and its size is that of its leading digit.
-/

namespace LiveIni.Number

theorem cast_tenTo (n : Nat) : (tenTo n : ℚ) = 10 ^ n :=
  Nat.cast_pow 10 n

/-- A power of ten as a fraction of powers that are not negative. -/
theorem zpow_eq_ratio (e : Int) : (10 : ℚ) ^ e = tenTo e.toNat / tenTo (-e).toNat := by
  rw [cast_tenTo, cast_tenTo, ← zpow_natCast, ← zpow_natCast, ← zpow_sub₀ (by norm_num)]
  congr 1
  omega

namespace Decimal

variable (d : Decimal)

/-- The number that a decimal is. -/
def value : ℚ :=
  d.signedCoefficient * 10 ^ d.exponent

/-- The fraction of a decimal is its value. -/
theorem value_eq_ratio : d.value = d.ratio.1 / d.ratio.2 := by
  unfold value ratio
  rw [zpow_eq_ratio]
  push_cast
  ring

theorem abs_value : |d.value| = d.coefficient * 10 ^ d.exponent := by
  have size : |(d.signedCoefficient : ℚ)| = d.coefficient := by
    unfold signedCoefficient
    split <;> simp
  have positive : (0 : ℚ) ≤ 10 ^ d.exponent := by positivity
  rw [value, abs_mul, size, abs_of_nonneg positive]

theorem value_eq_zero_iff : d.value = 0 ↔ d.coefficient = 0 := by
  have nonzero : (10 : ℚ) ^ d.exponent ≠ 0 := by positivity
  rw [← abs_eq_zero, abs_value, mul_eq_zero_iff_right nonzero]
  exact Nat.cast_eq_zero

/-- The zeros at the end of a decimal can be moved to its exponent. -/
theorem value_zeros (negative : Bool) (significant zeros : Nat) (exponent : Int)
    : value ⟨negative, significant * 10 ^ zeros, exponent⟩
      = value ⟨negative, significant, exponent + zeros⟩ := by
  have moved : (10 : ℚ) ^ (exponent + zeros) = 10 ^ zeros * 10 ^ exponent := by
    rw [zpow_add₀ (by norm_num), zpow_natCast, mul_comm]
  unfold value signedCoefficient
  dsimp only
  rw [moved]
  split <;> push_cast <;> ring

theorem value_ofInt (n : Int) : (ofInt n).value = n := by
  have signed : (ofInt n).signedCoefficient = n := by
    unfold signedCoefficient ofInt
    dsimp only
    split
    · next negative =>
        have below := of_decide_eq_true negative
        omega
    · next positive =>
        have above := of_decide_eq_false (eq_false_of_ne_true positive)
        omega
  have exponent : (ofInt n).exponent = 0 := rfl
  rw [value, signed, exponent, zpow_zero, mul_one]

/-- A decimal equals an integer exactly if that is its value. -/
theorem toInt?_eq_some_iff {n : Int} : d.toInt? = some n ↔ d.value = n := by
  have positive : 0 < d.ratio.2 := tenTo_pos _
  have same : d.value = n ↔ d.ratio.1 = n * d.ratio.2 := by
    rw [value_eq_ratio, div_eq_iff (by exact_mod_cast positive.ne')]
    exact_mod_cast Iff.rfl
  rw [same, toInt?]
  dsimp only
  constructor
  · intro found
    split at found
    · next divides =>
        cases found
        exact (Int.ediv_mul_cancel (Int.dvd_of_emod_eq_zero divides)).symm
    · cases found
  · intro multiple
    rw [multiple, if_pos (Int.mul_emod_left ..), Int.mul_ediv_cancel _ (by omega)]

/-- A decimal that is not zero reaches the power of ten of its leading digit, and not the next. -/
theorem adjusted_bounds (nonzero : d.coefficient ≠ 0)
    : 10 ^ d.adjusted ≤ |d.value| ∧ |d.value| < 10 ^ (d.adjusted + 1) := by
  have counted : 0 < digitCount d.coefficient := digitCountUpTo_pos ..
  have low : ((tenTo (digitCount d.coefficient - 1) : Nat) : ℚ) ≤ d.coefficient := by
    exact_mod_cast tenTo_le_of_digitCount (Nat.pos_of_ne_zero nonzero)
  have high : (d.coefficient : ℚ) < (tenTo (digitCount d.coefficient) : Nat) := by
    exact_mod_cast lt_tenTo_digitCount d.coefficient
  have positive : (0 : ℚ) < 10 ^ d.exponent := by positivity
  have first : d.adjusted = (digitCount d.coefficient - 1 : Nat) + d.exponent := by
    unfold adjusted
    omega
  have next : d.adjusted + 1 = (digitCount d.coefficient : Nat) + d.exponent := by
    unfold adjusted
    omega
  rw [cast_tenTo, ← zpow_natCast] at low high
  rw [abs_value, next, first, zpow_add₀ (by norm_num), zpow_add₀ (by norm_num)]
  exact ⟨mul_le_mul_of_nonneg_right low positive.le, mul_lt_mul_of_pos_right high positive⟩

/-- The leading digit of a decimal that is not zero stands above a place exactly if the decimal
reaches the next power of ten.
-/
theorem lt_adjusted_iff (nonzero : d.coefficient ≠ 0) (place : Int)
    : place < d.adjusted ↔ 10 ^ (place + 1) ≤ |d.value| := by
  obtain ⟨low, high⟩ := d.adjusted_bounds nonzero
  constructor
  · intro above
    exact (zpow_le_zpow_right₀ (by norm_num) (by omega)).trans low
  · intro reached
    have powers : (10 : ℚ) ^ (place + 1) < 10 ^ (d.adjusted + 1) := reached.trans_lt high
    have places := (zpow_lt_zpow_iff_right₀ (by norm_num)).mp powers
    omega

end Decimal

end LiveIni.Number
