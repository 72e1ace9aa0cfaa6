import LiveIni.Proofs.Number.Decimal
import LiveIni.Proofs.Number.Rounding
import Mathlib.Data.Int.Log
import Mathlib.Data.Rat.Floor

/-!
Decimals are rounded as the rational numbers that they are: to a place, or to a number of digits, which
is the place that many digits after the leading one.
-/

namespace LiveIni.Number

namespace Decimal

variable (d : Decimal)

theorem endsAt_exponent : EndsAt d.exponent d.value :=
  ⟨d.signedCoefficient, rfl⟩

/-- The magnitude of a decimal with its sign. -/
theorem value_eq_signed
    : d.value = if d.negative then -(d.coefficient * 10 ^ d.exponent : ℚ)
      else d.coefficient * 10 ^ d.exponent := by
  unfold value signedCoefficient
  split
  · push_cast
    rw [neg_mul]
  · push_cast
    rfl

/-- The form of a decimal with a larger exponent is the decimal rounded to that place. -/
theorem roundTo_roundsTo (place : ℤ) : RoundsTo place d.value (d.roundTo place).value := by
  unfold roundTo
  split
  · next finer =>
      obtain ⟨k, shift⟩ := Int.le.dest finer.le
      have power : (10 : ℚ) ^ place = 10 ^ d.exponent * tenTo k := by
        rw [← shift, zpow_add₀ (by norm_num), zpow_natCast, cast_tenTo]
      have places : (place - d.exponent).toNat = k := by omega
      have magnitude : RoundsTo place (d.coefficient * 10 ^ d.exponent)
          (divHalfEven d.coefficient (tenTo k) * 10 ^ place) := by
        refine ⟨divHalfEven d.coefficient (tenTo k), ?_, by push_cast; rfl⟩
        have unit := (unit_pos d.exponent).ne'
        rw [power, mul_comm (10 ^ d.exponent : ℚ), mul_div_mul_right _ _ unit]
        exact isNearestEven_divHalfEven (tenTo_pos k)
      rw [value_eq_signed, value_eq_signed, places]
      dsimp only
      split
      · exact magnitude.neg
      · exact magnitude
  · next coarser => exact (d.endsAt_exponent.of_le (not_lt.mp coarser)).roundsTo

@[simp]
theorem negative_roundTo (place : ℤ) : (d.roundTo place).negative = d.negative := by
  unfold roundTo
  split <;> rfl

@[simp]
theorem negative_roundDigits (digits : Nat) : (d.roundDigits digits).negative = d.negative := by
  unfold roundDigits
  dsimp only
  split <;> exact d.negative_roundTo _

/-- The leading digit of a decimal stands where its logarithm says. -/
theorem adjusted_eq_log (nonzero : d.coefficient ≠ 0) : d.adjusted = Int.log 10 |d.value| := by
  obtain ⟨low, high⟩ := d.adjusted_bounds nonzero
  have positive : 0 < |d.value| := (unit_pos d.adjusted).trans_le low
  have reached := (Int.zpow_le_iff_le_log (b := 10) (by norm_num) positive).mp low
  have bounded := (Int.lt_zpow_iff_log_lt (b := 10) (by norm_num) positive).mp high
  omega

/-- Digits dropped by rounding leave at most the power of ten that has one digit too many. -/
theorem divHalfEven_le_tenTo {n digits excess : Nat} (bound : n < tenTo (digits + excess))
    : divHalfEven n (tenTo excess) ≤ tenTo digits := by
  have positive := tenTo_pos excess
  have within := (@divHalfEven_within n (tenTo excess) positive).2
  rw [tenTo_add] at bound
  by_contra above
  have next : tenTo digits + 1 ≤ divHalfEven n (tenTo excess) := Nat.lt_of_not_le above
  have scaled := Nat.mul_le_mul_right (tenTo excess) next
  rw [Nat.add_mul, Nat.one_mul] at scaled
  omega

/-- Dropping the digits that are too many leaves at most the power of ten that has one digit too many. -/
theorem coefficient_roundTo_le (digits : Nat)
    : (d.roundTo (d.exponent + (digitCount d.coefficient - digits : Nat))).coefficient
      ≤ tenTo digits := by
  have bound := lt_tenTo_digitCount d.coefficient
  unfold roundTo
  split
  · next dropped =>
      have counted : digitCount d.coefficient = digits + (digitCount d.coefficient - digits) := by
        omega
      have excess : (d.exponent + (digitCount d.coefficient - digits : Nat) - d.exponent).toNat
          = digitCount d.coefficient - digits := by
        omega
      rw [counted] at bound
      dsimp only
      rw [excess]
      exact divHalfEven_le_tenTo bound
  · next kept =>
      have few : digitCount d.coefficient ≤ digits := by omega
      exact bound.le.trans (tenTo_le_tenTo few)

/-- Rounding to a number of digits is rounding to a place: where it ends in a digit too many, that digit
is a zero.
-/
theorem value_roundDigits {digits : Nat} (positive : 0 < digits)
    : (d.roundDigits digits).value
      = (d.roundTo (d.exponent + (digitCount d.coefficient - digits : Nat))).value := by
  unfold roundDigits
  dsimp only
  split
  · next long =>
      -- Only the power of ten itself has one digit too many.
      have reached : tenTo digits
          ≤ (d.roundTo (d.exponent + (digitCount d.coefficient - digits : Nat))).coefficient := by
        refine (tenTo_le_tenTo (Nat.le_sub_one_of_lt long)).trans (tenTo_le_of_digitCount ?_)
        rw [Nat.pos_iff_ne_zero]
        intro zero
        have one : digitCount 0 = 1 := by decide
        rw [zero, one] at long
        omega
      have exact := Nat.le_antisymm (d.coefficient_roundTo_le digits) reached
      obtain ⟨fewer, rfl⟩ : ∃ fewer, digits = fewer + 1 := ⟨digits - 1, by omega⟩
      rw [value_eq_signed, value_eq_signed]
      dsimp only
      rw [exact, tenTo_succ, Nat.mul_div_cancel _ (by norm_num), zpow_add_one₀ (by norm_num)]
      push_cast
      split <;> ring
  · rfl

/-- A number that is rounded to a number of digits has no more of them. -/
theorem coefficient_roundDigits_lt (digits : Nat)
    : (d.roundDigits digits).coefficient < tenTo digits := by
  have bound := d.coefficient_roundTo_le digits
  have positive := tenTo_pos digits
  unfold roundDigits
  dsimp only
  split
  · dsimp only
    omega
  · next short => exact (lt_tenTo_digitCount _).trans_le (tenTo_le_tenTo (not_lt.mp short))

/-- A number has at most as many digits as a power of ten above it has zeros. -/
theorem digitCount_le {n k : Nat} (positive : 0 < k) (few : n < tenTo k)
    : digitCount n ≤ k := by
  rcases Nat.eq_zero_or_pos n with rfl | some
  · exact positive
  · by_contra more
    have reached := tenTo_le_tenTo (m := k) (n := digitCount n - 1) (by omega)
    have bound := tenTo_le_of_digitCount some
    omega

/-- A decimal of few digits keeps its form. -/
theorem roundDigits_eq_self {k : Nat} (positive : 0 < k) (few : d.coefficient < tenTo k)
    : d.roundDigits k = d := by
  have counted := digitCount_le positive few
  have none : digitCount d.coefficient - k = 0 := Nat.sub_eq_zero_of_le counted
  have same : d.roundTo (d.exponent + (0 : Nat)) = d := by
    rw [roundTo, if_neg (by omega)]
  rw [roundDigits, none, same, if_neg (Nat.not_lt.mpr counted)]

/-- Rounding to a number of digits is rounding to the place that many digits after the leading one. -/
theorem roundDigits_roundsTo (digits : Nat) (positive : 0 < digits)
    : RoundsTo (Int.log 10 |d.value| - (digits - 1)) d.value (d.roundDigits digits).value := by
  rw [d.value_roundDigits positive]
  have rounds := d.roundTo_roundsTo (d.exponent + (digitCount d.coefficient - digits : Nat))
  by_cases zero : d.coefficient = 0
  · have noValue := d.value_eq_zero_iff.mpr zero
    have ends (place : ℤ) : EndsAt place d.value := ⟨0, by simp [noValue]⟩
    rw [(ends _).eq_of_roundsTo rounds]
    exact (ends _).roundsTo
  · rw [← d.adjusted_eq_log zero, adjusted]
    by_cases long : digits ≤ digitCount d.coefficient
    · have place : d.exponent + digitCount d.coefficient - 1 - ((digits : ℤ) - 1)
          = d.exponent + (digitCount d.coefficient - digits : Nat) := by
        omega
      rwa [place]
    · have kept : EndsAt (d.exponent + (digitCount d.coefficient - digits : Nat)) d.value :=
        d.endsAt_exponent.of_le (by omega)
      rw [kept.eq_of_roundsTo rounds]
      exact (d.endsAt_exponent.of_le (by omega)).roundsTo

-----------------------------------------------------------------------------------------
-- Order
-----------------------------------------------------------------------------------------

/-- A coefficient at a smaller exponent writes the same number. -/
theorem coefficientAt_mul {exponent : ℤ} (smaller : exponent ≤ d.exponent)
    : (if d.negative then -1 else 1) * (coefficientAt exponent d : ℚ) * 10 ^ exponent
      = d.value := by
  obtain ⟨k, shift⟩ := Int.le.dest smaller
  have places : (d.exponent - exponent).toNat = k := by omega
  have power : (10 : ℚ) ^ d.exponent = 10 ^ k * 10 ^ exponent := by
    rw [← shift, zpow_add₀ (by norm_num), zpow_natCast, mul_comm]
  unfold coefficientAt
  rw [value_eq_signed, places, power]
  push_cast
  rw [cast_tenTo]
  split <;> ring

/-- Decimals compare as their values. -/
theorem compare_eq_gt_iff (a b : Decimal) : a.compare b = .gt ↔ b.value < a.value := by
  have unit := unit_pos (min a.exponent b.exponent)
  rw [← a.coefficientAt_mul (min_le_left a.exponent b.exponent),
    ← b.coefficientAt_mul (min_le_right a.exponent b.exponent), mul_lt_mul_iff_left₀ unit]
  unfold compare
  dsimp only
  rw [Int.compare_eq_gt]
  exact_mod_cast Iff.rfl

theorem compare_eq_eq_iff (a b : Decimal) : a.compare b = .eq ↔ a.value = b.value := by
  have unit := (unit_pos (min a.exponent b.exponent)).ne'
  rw [← a.coefficientAt_mul (min_le_left a.exponent b.exponent),
    ← b.coefficientAt_mul (min_le_right a.exponent b.exponent), mul_left_inj' unit]
  unfold compare
  dsimp only
  rw [Std.LawfulEqCmp.compare_eq_iff_eq]
  exact_mod_cast Iff.rfl

theorem value_abs : d.abs.value = |d.value| := by
  rw [abs_value]
  rfl

end Decimal

end LiveIni.Number
