import LiveIni.Number.Double
import LiveIni.Proofs.Number.DecimalRounding

/-!
Doubles are rounded as the rational numbers that they are: a number becomes the multiple of its last bit
that is nearest to it, and infinite where that multiple is too large. The numbers that are not changed
by this are those that some double is.
-/

namespace LiveIni.Number

theorem cast_twoTo (n : Nat) : (twoTo n : ℚ) = 2 ^ n :=
  Nat.cast_pow 2 n

theorem twoTo_pos (n : Nat) : 0 < twoTo n :=
  Nat.pow_pos (by decide)

/-- A power of two as a fraction of powers that are not negative. -/
theorem two_zpow_eq_ratio (e : Int) : (2 : ℚ) ^ e = twoTo e.toNat / twoTo (-e).toNat := by
  rw [cast_twoTo, cast_twoTo, ← zpow_natCast, ← zpow_natCast, ← zpow_sub₀ (by norm_num)]
  congr 1
  omega

/-- A fraction in units of a power of two is a fraction of natural numbers, too. -/
theorem ratio_in_units (num den : Nat) (e : Int)
    : ((num * twoTo (-e).toNat : Nat) / (den * twoTo e.toNat : Nat) : ℚ) = num / den / 2 ^ e := by
  have up : (twoTo e.toNat : ℚ) ≠ 0 := by exact_mod_cast (twoTo_pos _).ne'
  have down : (twoTo (-e).toNat : ℚ) ≠ 0 := by exact_mod_cast (twoTo_pos _).ne'
  rw [two_zpow_eq_ratio]
  push_cast
  field_simp

/-- A fraction is rounded in units of a power of two. -/
theorem isNearestEven_units (num : Nat) {den : Nat} (positive : 0 < den) (e : Int)
    : IsNearestEven (num / den / 2 ^ e)
        (divHalfEven (num * twoTo (-e).toNat) (den * twoTo e.toNat) : Nat) := by
  rw [← ratio_in_units]
  exact isNearestEven_divHalfEven (Nat.mul_pos positive (twoTo_pos _))

section Nearest

variable {q : ℚ} {m n : ℤ}

/-- What is nearest to a number below an integer is not above that integer. -/
theorem IsNearestEven.le_of_lt (nearest : IsNearestEven q m) (below : q < n) : m ≤ n := by
  have within := abs_le.mp (by linarith [nearest.within] : |q - m| ≤ 1 / 2)
  have next : (m : ℚ) < (n + 1 : ℤ) := by
    push_cast
    linarith
  exact Int.lt_add_one_iff.mp (by exact_mod_cast next)

/-- What is nearest to a number is at least each integer that the number reaches. -/
theorem IsNearestEven.le_of_le (nearest : IsNearestEven q m) (above : n ≤ q) : n ≤ m := by
  have within := abs_le.mp (by linarith [nearest.within] : |q - m| ≤ 1 / 2)
  have next : (n : ℚ) < (m + 1 : ℤ) := by
    push_cast
    linarith
  exact Int.lt_add_one_iff.mp (by exact_mod_cast next)

/-- An integer is nearest to itself. -/
theorem isNearestEven_self (n : ℤ) : IsNearestEven (n : ℚ) n where
  within := by simp
  even := by simp

end Nearest

namespace Double

-----------------------------------------------------------------------------------------
-- The numbers that doubles are
-----------------------------------------------------------------------------------------

/-- The number that a double is, if it is finite. -/
def value? (x : Double) : Option ℚ :=
  if x.isFinite then some (x.scaled / scale) else none

theorem value?_finite (negative : Bool) (significand : Nat) {exponent : Int}
    (unit : -1074 ≤ exponent)
    : (finite negative significand exponent).value?
      = some (if negative then -(significand * 2 ^ exponent : ℚ) else significand * 2 ^ exponent) := by
  have nonzero : (2 : ℚ) ^ 1074 ≠ 0 := by positivity
  have magnitude : (significand * twoTo (exponent + 1074).toNat : ℚ) / 2 ^ 1074
      = significand * 2 ^ exponent := by
    have shifted : ((exponent + 1074).toNat : ℤ) = exponent + (1074 : ℕ) := by omega
    rw [cast_twoTo, ← zpow_natCast, shifted, zpow_add₀ (by norm_num), zpow_natCast, ← mul_assoc,
      mul_div_cancel_right₀ _ nonzero]
  have isFinite : (finite negative significand exponent).isFinite = true := rfl
  rw [value?, if_pos isFinite, scaled, scale, cast_twoTo, ← magnitude]
  cases negative with
  | false => simp
  | true => simp [neg_div]

theorem isFinite_of_value? {x : Double} {q : ℚ} (value : x.value? = some q) : x.isFinite = true := by
  by_contra infinite
  rw [value?, if_neg infinite] at value
  cases value

theorem value?_of_isZero {x : Double} (zero : x.isZero = true) : x.value? = some 0 := by
  cases x with
  | finite negative significand exponent =>
      have none : significand = 0 := of_decide_eq_true zero
      have isFinite : (finite negative 0 exponent).isFinite = true := rfl
      have noUnits : (finite negative 0 exponent).scaled = 0 := by
        cases negative <;> simp [scaled]
      rw [none, value?, if_pos isFinite, noUnits, Int.cast_zero, zero_div]
  | infinite negative => cases zero
  | nan => cases zero

/-- Some double is the number. -/
def IsValue (q : ℚ) : Prop :=
  ∃ m e : ℤ, |m| < 2 ^ 53 ∧ -1074 ≤ e ∧ e ≤ 971 ∧ q = m * 2 ^ e

-----------------------------------------------------------------------------------------
-- The nearest number
-----------------------------------------------------------------------------------------

/-- The place of the last of 53 bits of a number, or of the last bit that any double has. -/
def lastBit (q : ℚ) : ℤ :=
  max (-1074) (Int.log 2 |q| - 52)

/-- The multiple of the last bit that is nearest to the number, half to even. -/
def Nearest (q r : ℚ) : Prop :=
  ∃ m : ℤ, IsNearestEven (q / 2 ^ lastBit q) m ∧ r = m * 2 ^ lastBit q

variable {q r : ℚ}

theorem bit_pos (place : ℤ) : (0 : ℚ) < 2 ^ place :=
  zpow_pos (by norm_num) place

theorem Nearest.neg (nearest : Nearest q r) : Nearest (-q) (-r) := by
  obtain ⟨m, isNearest, rfl⟩ := nearest
  have same : lastBit (-q) = lastBit q := by rw [lastBit, abs_neg, lastBit]
  refine ⟨-m, ?_, ?_⟩
  · rw [same, neg_div]
    exact isNearest.neg
  · rw [same]
    push_cast
    ring

theorem Nearest.unique {s : ℚ} (nearest : Nearest q r) (other : Nearest q s) : r = s := by
  obtain ⟨m, mNearest, rfl⟩ := nearest
  obtain ⟨n, nNearest, rfl⟩ := other
  rw [mNearest.unique nNearest]

/-- A number has at most 53 bits up to its last one. -/
theorem abs_div_lastBit_lt (q : ℚ) : |q / 2 ^ lastBit q| < 2 ^ 53 := by
  have bit := bit_pos (lastBit q)
  have leading := Int.lt_zpow_succ_log_self (b := 2) (by norm_num) |q|
  have place : Int.log 2 |q| + 1 ≤ (53 : ℕ) + lastBit q := by
    rw [lastBit]
    omega
  rw [abs_div, abs_of_pos bit, div_lt_iff₀ bit, ← zpow_natCast, ← zpow_add₀ (by norm_num)]
  exact leading.trans_le (zpow_le_zpow_right₀ (by norm_num) place)

/-- It has 53 bits up to that one if some double has a finer bit. -/
theorem le_abs_div_lastBit (nonzero : q ≠ 0) (coarse : -1074 < lastBit q)
    : 2 ^ 52 ≤ |q / 2 ^ lastBit q| := by
  have bit := bit_pos (lastBit q)
  have leading := Int.zpow_log_le_self (b := 2) (by norm_num) (abs_pos.mpr nonzero)
  have place : (52 : ℕ) + lastBit q = Int.log 2 |q| := by
    rw [lastBit] at coarse ⊢
    omega
  rw [abs_div, abs_of_pos bit, le_div_iff₀ bit, ← zpow_natCast, ← zpow_add₀ (by norm_num), place]
  exact leading

/-- What is at least one does not become zero. -/
theorem Nearest.ne_zero (nearest : Nearest q r) (atLeastOne : 1 ≤ |q|) : r ≠ 0 := by
  have positive : 0 < |q| := by linarith
  have leading : 0 ≤ Int.log 2 |q| :=
    (Int.zpow_le_iff_le_log (b := 2) (by norm_num) positive).mp (by simpa using atLeastOne)
  have reached := le_abs_div_lastBit (abs_pos.mp positive) (by rw [lastBit]; omega)
  obtain ⟨m, isNearest, rfl⟩ := nearest
  have within := isNearest.within
  intro zero
  have none : (m : ℚ) = 0 := (mul_eq_zero.mp zero).resolve_right (bit_pos _).ne'
  rw [none, sub_zero] at within
  linarith

/-- A multiple of a bit is a multiple of every finer one. -/
theorem exists_eq_mul_bit {m e place : ℤ} (whole : q = m * 2 ^ e) (finer : place ≤ e)
    : ∃ n : ℤ, q = n * 2 ^ place := by
  obtain ⟨k, rfl⟩ := Int.le.dest finer
  refine ⟨m * 2 ^ k, ?_⟩
  rw [whole, zpow_add₀ (by norm_num), zpow_natCast]
  push_cast
  ring

/-- A number that some double is ends at its last bit. -/
theorem IsValue.exists_eq_mul_lastBit (value : IsValue q) : ∃ n : ℤ, q = n * 2 ^ lastBit q := by
  obtain ⟨m, e, bits, low, high, whole⟩ := value
  by_cases zero : q = 0
  · exact ⟨0, by simpa using zero⟩
  · refine exists_eq_mul_bit whole ?_
    by_contra finer
    have reached := le_abs_div_lastBit zero (low.trans_lt (not_le.mp finer))
    have bit := bit_pos (lastBit q)
    have size : |q| < 2 ^ ((53 : ℕ) + e) := by
      have few : |(m : ℚ)| < 2 ^ 53 := by exact_mod_cast bits
      rw [whole, abs_mul, abs_of_pos (bit_pos e), zpow_add₀ (by norm_num), zpow_natCast]
      exact mul_lt_mul_of_pos_right few (bit_pos e)
    rw [abs_div, abs_of_pos bit, le_div_iff₀ bit, ← zpow_natCast, ← zpow_add₀ (by norm_num)]
      at reached
    have places := (zpow_lt_zpow_iff_right₀ (by norm_num)).mp (reached.trans_lt size)
    omega

theorem IsValue.nearest (value : IsValue q) : Nearest q q := by
  obtain ⟨n, whole⟩ := value.exists_eq_mul_lastBit
  have units : q / 2 ^ lastBit q = n := by
    rw [div_eq_iff (bit_pos _).ne']
    exact whole
  exact ⟨n, units ▸ isNearestEven_self n, whole⟩

theorem isValue_zero : IsValue 0 :=
  ⟨0, 0, by norm_num, by norm_num, by norm_num, by simp⟩

theorem IsValue.abs_lt (value : IsValue q) : |q| < 2 ^ 1024 := by
  obtain ⟨m, e, bits, low, high, rfl⟩ := value
  have few : |(m : ℚ)| < 2 ^ 53 := by exact_mod_cast bits
  have unit : (2 : ℚ) ^ e ≤ 2 ^ 971 := by
    rw [← zpow_natCast]
    exact zpow_le_zpow_right₀ (by norm_num) high
  calc |(m : ℚ) * 2 ^ e|
      = |(m : ℚ)| * 2 ^ e := by rw [abs_mul, abs_of_pos (bit_pos e)]
    _ < 2 ^ 53 * 2 ^ e := mul_lt_mul_of_pos_right few (bit_pos e)
    _ ≤ 2 ^ 53 * 2 ^ 971 := mul_le_mul_of_nonneg_left unit (by positivity)
    _ = 2 ^ 1024 := by rw [← pow_add]

/-- The nearest number is the number itself exactly if some double is that number, unless it is too large
for a double.
-/
theorem Nearest.eq_iff_isValue (nearest : Nearest q r) : r = q ∧ |r| < 2 ^ 1024 ↔ IsValue q := by
  constructor
  · rintro ⟨rfl, small⟩
    by_cases zero : r = 0
    · exact zero ▸ isValue_zero
    · obtain ⟨m, _, whole⟩ := nearest
      have bit := bit_pos (lastBit r)
      have units : r / 2 ^ lastBit r = m := by
        rw [div_eq_iff bit.ne']
        exact whole
      refine ⟨m, lastBit r, ?_, le_max_left .., ?_, whole⟩
      · have bits := abs_div_lastBit_lt r
        rw [units] at bits
        exact_mod_cast bits
      · by_contra coarse
        have reached := le_abs_div_lastBit zero (by omega)
        rw [abs_div, abs_of_pos bit, le_div_iff₀ bit, ← zpow_natCast, ← zpow_add₀ (by norm_num)]
          at reached
        rw [← zpow_natCast] at small
        have places := (zpow_lt_zpow_iff_right₀ (by norm_num)).mp (reached.trans_lt small)
        omega
  · intro value
    cases nearest.unique value.nearest
    exact ⟨rfl, value.abs_lt⟩

/-- The nearest multiple of the last bit has at most 53 bits, and none that is finer than any double's
if it has fewer.
-/
theorem Nearest.exists_units (nearest : Nearest q r) (positive : 0 < q)
    : ∃ n : Nat, IsNearestEven (q / 2 ^ lastBit q) n ∧ r = n * 2 ^ lastBit q ∧ n ≤ 2 ^ 53
        ∧ (-1074 < lastBit q → 2 ^ 52 ≤ n) := by
  obtain ⟨m, isNearest, rfl⟩ := nearest
  have scaled := div_pos positive (bit_pos (lastBit q))
  have nonnegative : 0 ≤ m := isNearest.le_of_le (by exact_mod_cast scaled.le)
  obtain ⟨n, rfl⟩ := Int.eq_ofNat_of_zero_le nonnegative
  have bits := abs_div_lastBit_lt q
  refine ⟨n, isNearest, by push_cast; rfl, ?_, fun coarse => ?_⟩
  · rw [abs_of_pos scaled] at bits
    have few : (n : ℤ) ≤ 2 ^ 53 := isNearest.le_of_lt (by exact_mod_cast bits)
    exact_mod_cast few
  · have reached := le_abs_div_lastBit positive.ne' coarse
    rw [abs_of_pos scaled] at reached
    have many : 2 ^ 52 ≤ (n : ℤ) := isNearest.le_of_le (by exact_mod_cast reached)
    exact_mod_cast many

-----------------------------------------------------------------------------------------
-- Rounding
-----------------------------------------------------------------------------------------

/-- The double is nearest to the number, and infinite if the nearest number is too large. -/
inductive Rounds (q : ℚ) : Double → Prop
  | finite {x : Double} {r : ℚ} (nearest : Nearest q r) (small : |r| < 2 ^ 1024)
      (value : x.value? = some r)
    : Rounds q x
  | infinite {negative : Bool} {r : ℚ} (nearest : Nearest q r) (large : 2 ^ 1024 ≤ |r|)
    : Rounds q (infinite negative)

theorem log_two_eq {e : ℤ} (low : 2 ^ e ≤ q) (high : q < 2 ^ (e + 1)) : Int.log 2 q = e := by
  have positive : 0 < q := (bit_pos e).trans_le low
  have reached := (Int.zpow_le_iff_le_log (b := 2) (by norm_num) positive).mp low
  have bounded := (Int.lt_zpow_iff_log_lt (b := 2) (by norm_num) positive).mp high
  omega

/-- A natural number lies between two powers of two that its binary logarithm names. -/
theorem log2_bounds {n : Nat} (nonzero : n ≠ 0)
    : (2 : ℚ) ^ (Nat.log2 n : ℤ) ≤ n ∧ (n : ℚ) < 2 ^ ((Nat.log2 n : ℤ) + 1) := by
  have low : ((2 ^ Nat.log2 n : Nat) : ℚ) ≤ n := Nat.cast_le.mpr (Nat.log2_self_le nonzero)
  have high : (n : ℚ) < ((2 ^ (Nat.log2 n + 1) : Nat) : ℚ) := Nat.cast_lt.mpr Nat.lt_log2_self
  constructor
  · rw [zpow_natCast]
    exact_mod_cast low
  · rw [← Nat.cast_succ, zpow_natCast]
    exact_mod_cast high

/-- The exponent for a fraction is that of its last bit. -/
theorem exponentFor_eq_lastBit {num den : Nat} (nonzero : num ≠ 0) (positive : 0 < den)
    : exponentFor num den = lastBit (num / den) := by
  obtain ⟨numLow, numHigh⟩ := log2_bounds nonzero
  obtain ⟨denLow, denHigh⟩ := log2_bounds positive.ne'
  have numSome : (0 : ℚ) < num := by exact_mod_cast Nat.pos_of_ne_zero nonzero
  have denSome : (0 : ℚ) < den := by exact_mod_cast positive
  unfold exponentFor lastBit
  rw [abs_of_pos (div_pos numSome denSome)]
  dsimp only
  generalize (Nat.log2 num : ℤ) = a at numLow numHigh
  generalize (Nat.log2 den : ℤ) = b at denLow denHigh
  have low : (2 : ℚ) ^ (a - b - 1) ≤ num / den := by
    rw [le_div_iff₀ denSome]
    calc (2 : ℚ) ^ (a - b - 1) * den
        ≤ 2 ^ (a - b - 1) * 2 ^ (b + 1) := mul_le_mul_of_nonneg_left denHigh.le (bit_pos _).le
      _ = 2 ^ a := by rw [← zpow_add₀ (by norm_num)]; congr 1; omega
      _ ≤ num := numLow
  have high : (num / den : ℚ) < 2 ^ (a - b + 1) := by
    rw [div_lt_iff₀ denSome]
    calc (num : ℚ)
        < 2 ^ (a + 1) := numHigh
      _ = 2 ^ (a - b + 1) * 2 ^ b := by rw [← zpow_add₀ (by norm_num)]; congr 1; omega
      _ ≤ 2 ^ (a - b + 1) * den := mul_le_mul_of_nonneg_left denLow (bit_pos _).le
  have below : num * twoTo (-(a - b)).toNat < den * twoTo (a - b).toNat
      ↔ (num / den : ℚ) < 2 ^ (a - b) := by
    have units : (0 : ℚ) < (den * twoTo (a - b).toNat : Nat) := by
      exact_mod_cast Nat.mul_pos positive (twoTo_pos _)
    rw [← div_lt_one (bit_pos _), ← ratio_in_units, div_lt_one units, Nat.cast_lt]
  split
  · next less => rw [log_two_eq low (by simpa using below.mp less)]
  · next reached => rw [log_two_eq (not_lt.mp (mt below.mpr reached)) high]

/-- A magnitude with its sign. -/
def signed (negative : Bool) (q : ℚ) : ℚ :=
  if negative then -q else q

theorem abs_signed (negative : Bool) (q : ℚ) : |signed negative q| = |q| := by
  cases negative with
  | false => rfl
  | true => exact abs_neg q

theorem Nearest.signed (nearest : Nearest q r) (negative : Bool)
    : Nearest (signed negative q) (signed negative r) := by
  cases negative with
  | false => exact nearest
  | true => exact nearest.neg

/-- All 53 bits above the greatest exponent are too large. -/
theorem le_units {significand : Nat} {exponent : ℤ} (full : 2 ^ 52 ≤ significand)
    (large : 971 < exponent)
    : (2 : ℚ) ^ 1024 ≤ significand * 2 ^ exponent := by
  have reached : (2 : ℚ) ^ 52 ≤ significand := by exact_mod_cast full
  have coarse : (2 : ℚ) ^ 972 ≤ 2 ^ exponent := by
    rw [← zpow_natCast]
    exact zpow_le_zpow_right₀ (by norm_num) large
  calc (2 : ℚ) ^ 1024
      = 2 ^ 52 * 2 ^ 972 := by rw [← pow_add]
    _ ≤ (significand : ℚ) * 2 ^ exponent :=
        mul_le_mul reached coarse (by positivity) (by positivity)

/-- A number that is too large for a double has a nearest number that is too large. -/
theorem Nearest.le_of_le (nearest : Nearest q r) (huge : 2 ^ 1024 ≤ q) : 2 ^ 1024 ≤ r := by
  have positive : 0 < q := (by positivity : (0 : ℚ) < 2 ^ 1024).trans_le huge
  obtain ⟨n, _, rfl, _, full⟩ := nearest.exists_units positive
  have leading : (1024 : ℕ) ≤ Int.log 2 |q| := by
    rw [abs_of_pos positive, ← Int.zpow_le_iff_le_log (by norm_num) positive, zpow_natCast]
    exact_mod_cast huge
  have large : 971 < lastBit q := by
    rw [lastBit]
    omega
  exact le_units (full (by omega)) large

/-- Few bits are a double that is nearest to what they are nearest to, and that is infinite if their
exponent is too large.
-/
theorem Nearest.rounds {significand : Nat} {exponent : ℤ} {negative : Bool}
    (nearest : Nearest q (Double.signed negative (significand * 2 ^ exponent)))
    (few : significand < 2 ^ 53) (unit : -1074 ≤ exponent)
    (full : 971 < exponent → 2 ^ 52 ≤ significand)
    : Rounds q (if 971 < exponent then infinite negative
        else finite negative significand exponent) := by
  have bit := bit_pos exponent
  have size : |Double.signed negative (significand * 2 ^ exponent)|
      = significand * 2 ^ exponent := by
    rw [abs_signed, abs_of_nonneg (by positivity)]
  by_cases large : 971 < exponent
  · rw [if_pos large]
    refine .infinite nearest ?_
    rw [size]
    exact le_units (full large) large
  · rw [if_neg large]
    refine .finite nearest ?_ (value?_finite negative significand unit)
    have value : IsValue (Double.signed negative (significand * 2 ^ exponent)) := by
      cases negative with
      | false =>
          exact ⟨significand, exponent, by exact_mod_cast few, unit, not_lt.mp large, rfl⟩
      | true =>
          refine ⟨-significand, exponent, ?_, unit, not_lt.mp large, ?_⟩
          · rw [abs_neg]
            exact_mod_cast few
          · push_cast
            exact (neg_mul ..).symm
    exact value.abs_lt

/-- A fraction is rounded at the last bit of the number, and a bit too many is carried. -/
theorem exists_ofRatio_eq (negative : Bool) {num den : Nat} (nonzero : num ≠ 0)
    (positive : 0 < den)
    : ∃ (significand : Nat) (exponent : ℤ),
        ofRatio negative num den
            = (if 971 < exponent then infinite negative
              else finite negative significand exponent)
          ∧ Nearest (num / den) (significand * 2 ^ exponent)
          ∧ significand < 2 ^ 53
          ∧ -1074 ≤ exponent
          ∧ (-1074 < exponent → 2 ^ 52 ≤ significand) := by
  have magnitude : (0 : ℚ) < num / den :=
    div_pos (by exact_mod_cast Nat.pos_of_ne_zero nonzero) (by exact_mod_cast positive)
  have isNearest := isNearestEven_units num positive (lastBit (num / den))
  unfold ofRatio
  rw [if_neg nonzero, exponentFor_eq_lastBit nonzero positive]
  dsimp only
  generalize divHalfEven (num * twoTo (-lastBit (num / den)).toNat)
    (den * twoTo (lastBit (num / den)).toNat) = n at isNearest
  have nearest : Nearest (num / den) (n * 2 ^ lastBit (num / den)) := ⟨n, isNearest, rfl⟩
  obtain ⟨m, same, _, few, full⟩ := nearest.exists_units magnitude
  cases Int.ofNat_inj.mp (isNearest.unique same)
  have unit : -1074 ≤ lastBit (num / den) := le_max_left ..
  generalize lastBit (num / den) = e at nearest full unit
  by_cases carried : n = twoTo 53
  · rw [if_pos carried]
    have half : twoTo 52 < 2 ^ 53 ∧ 2 ^ 52 ≤ twoTo 52 := by decide
    have shifted : ((twoTo 52 : Nat) * 2 ^ (e + 1) : ℚ) = n * 2 ^ e := by
      rw [carried, cast_twoTo, cast_twoTo, zpow_add_one₀ (by norm_num)]
      ring
    exact ⟨twoTo 52, e + 1, rfl, shifted ▸ nearest, half.1, by omega, fun _ => half.2⟩
  · rw [if_neg carried]
    exact ⟨n, e, rfl, nearest, lt_of_le_of_ne few carried, unit, full⟩

/-- A fraction becomes the nearest double. -/
theorem ofRatio_rounds (negative : Bool) {num den : Nat} (nonzero : num ≠ 0) (positive : 0 < den)
    : Rounds (signed negative (num / den)) (ofRatio negative num den) := by
  obtain ⟨significand, exponent, same, nearest, few, unit, full⟩ :=
    exists_ofRatio_eq negative nonzero positive
  rw [same]
  exact (nearest.signed negative).rounds few unit fun large => full (by omega)

/-- A fraction has a nearest number. -/
theorem exists_nearest_ratio (num : Nat) {den : Nat} (positive : 0 < den)
    : ∃ r, Nearest (num / den) r :=
  ⟨_, _, isNearestEven_units num positive _, rfl⟩

/-- What is less than half of the smallest double has the nearest number zero. -/
theorem nearest_zero (nonzero : q ≠ 0) (tiny : |q| < 2 ^ (-1075 : ℤ)) : Nearest q 0 := by
  have leading := (Int.lt_zpow_iff_log_lt (b := 2) (by norm_num) (abs_pos.mpr nonzero)).mp tiny
  have place : lastBit q = -1074 := by
    rw [lastBit]
    omega
  have bit := bit_pos (-1074)
  have near : 2 * |q / 2 ^ lastBit q - (0 : ℤ)| < 1 := by
    rw [place, Int.cast_zero, sub_zero, abs_div, abs_of_pos bit, ← mul_div_assoc, div_lt_one bit]
    have half : (2 : ℚ) * 2 ^ (-1075 : ℤ) = 2 ^ (-1074 : ℤ) := by
      rw [← zpow_one_add₀ (by norm_num)]
      norm_num
    linarith
  exact ⟨0, ⟨near.le, fun tie => absurd tie near.ne⟩, by simp⟩

theorem rounds_zero (negative : Bool) (nearest : Nearest q 0) : Rounds q (zero negative) := by
  refine .finite nearest (by simp) ?_
  rw [zero, value?_finite negative 0 le_rfl]
  cases negative <;> simp

/-- The fraction of a decimal is its value without the sign. -/
theorem value_eq_signed_ratio (d : Decimal)
    : d.value = signed d.negative (d.ratio.1.natAbs / d.ratio.2) := by
  have size : d.signedCoefficient.natAbs = d.coefficient := by
    unfold Decimal.signedCoefficient
    split <;> omega
  rw [d.value_eq_signed, Decimal.ratio, Int.natAbs_mul, size, Int.natAbs_natCast, zpow_eq_ratio]
  push_cast
  rw [mul_div_assoc]
  rfl

/-- Ten is more than three bits. -/
theorem two_pow_le_ten_pow : (2 : ℚ) ^ 1200 ≤ 10 ^ 400 := by
  rw [pow_mul 2 3 400]
  exact pow_le_pow_left₀ (by norm_num) (by norm_num) 400

/-- A decimal becomes the nearest double.
Witness: the powers of ten that are not computed lie far outside the range of doubles.
-/
theorem ofDecimal_rounds (d : Decimal) : Rounds d.value (ofDecimal d) := by
  unfold ofDecimal
  by_cases zero : d.coefficient = 0
  · have isZero : d.isZero = true := decide_eq_true zero
    rw [if_pos (.inl isZero)]
    have noValue := d.value_eq_zero_iff.mpr zero
    exact rounds_zero d.negative (noValue ▸ isValue_zero.nearest)
  · obtain ⟨low, high⟩ := d.adjusted_bounds zero
    have nonzero : d.value ≠ 0 := mt d.value_eq_zero_iff.mp zero
    have positive : 0 < d.ratio.2 := tenTo_pos _
    have isZero : d.isZero = false := decide_eq_false zero
    simp only [isZero, Bool.false_eq_true, false_or]
    split
    · next tiny =>
        refine rounds_zero d.negative (nearest_zero nonzero (high.trans_le ?_))
        calc (10 : ℚ) ^ (d.adjusted + 1)
            ≤ 10 ^ (-400 : ℤ) := zpow_le_zpow_right₀ (by norm_num) (by omega)
          _ = (10 ^ 400)⁻¹ := by rw [← zpow_natCast, ← zpow_neg, Nat.cast_ofNat]
          _ ≤ (2 ^ 1075)⁻¹ := inv_anti₀ (by positivity)
              ((pow_le_pow_right₀ (by norm_num) (by norm_num)).trans two_pow_le_ten_pow)
          _ = 2 ^ (-1075 : ℤ) := by rw [← zpow_natCast, ← zpow_neg, Nat.cast_ofNat]
    · split
      · next huge =>
          obtain ⟨r, nearest⟩ := exists_nearest_ratio d.ratio.1.natAbs positive
          have size : |d.value| = d.ratio.1.natAbs / d.ratio.2 := by
            rw [value_eq_signed_ratio, abs_signed, abs_of_nonneg (by positivity)]
          have large : (2 : ℚ) ^ 1024 ≤ |d.value| := by
            calc (2 : ℚ) ^ 1024
                ≤ 2 ^ 1200 := pow_le_pow_right₀ (by norm_num) (by norm_num)
              _ ≤ 10 ^ 400 := two_pow_le_ten_pow
              _ = 10 ^ ((400 : ℕ) : ℤ) := (zpow_natCast ..).symm
              _ ≤ 10 ^ d.adjusted := zpow_le_zpow_right₀ (by norm_num) huge.le
              _ ≤ |d.value| := low
          rw [value_eq_signed_ratio]
          refine .infinite (nearest.signed d.negative) ?_
          rw [abs_signed]
          exact (nearest.le_of_le (size ▸ large)).trans (le_abs_self r)
      · rw [value_eq_signed_ratio]
        refine ofRatio_rounds d.negative (fun none => nonzero ?_) positive
        rw [value_eq_signed_ratio, none]
        cases d.negative <;> simp [signed]

end Double

end LiveIni.Number
