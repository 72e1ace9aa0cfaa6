import LiveIni.Number.Rounding
import Mathlib.Algebra.Group.Int.Even
import Mathlib.Algebra.Order.Field.Rat
import Mathlib.Algebra.Order.Field.Power
import Mathlib.Tactic.FieldSimp
import Mathlib.Tactic.Linarith
import Mathlib.Tactic.Positivity
import Mathlib.Tactic.Ring

/-!
Rounding rational numbers to a decimal place, a half going to the even neighbour. Rounding twice, to
a fine place and then to a coarse one, comes to the same as rounding once unless the first step ends
halfway between two neighbours and the second one goes on in its direction.
-/

namespace LiveIni.Number

-----------------------------------------------------------------------------------------
-- The nearest integer
-----------------------------------------------------------------------------------------

/-- The integer is nearest to the number, and it is even if another one is as near. -/
structure IsNearestEven (q : ℚ) (n : ℤ) : Prop where
  within : 2 * |q - n| ≤ 1
  even : 2 * |q - n| = 1 → Even n

theorem IsNearestEven.neg {q : ℚ} {n : ℤ} (nearest : IsNearestEven q n)
    : IsNearestEven (-q) (-n) := by
  have same : |-q - ((-n : ℤ) : ℚ)| = |q - n| := by
    rw [← abs_neg]
    congr 1
    push_cast
    ring
  constructor
  · rw [same]
    exact nearest.within
  · rw [same]
    exact fun tie => (nearest.even tie).neg

/-- Integers below and above a number are not both nearest: at most one of two neighbours is even. -/
theorem IsNearestEven.le {q : ℚ} {m n : ℤ} (nearest : IsNearestEven q m)
    (other : IsNearestEven q n)
    : m ≤ n := by
  by_contra above
  have apart : (n : ℚ) + 1 ≤ m := by exact_mod_cast not_le.mp above
  have low := abs_le.mp (by linarith [nearest.within] : |q - m| ≤ 1 / 2)
  have high := abs_le.mp (by linarith [other.within] : |q - n| ≤ 1 / 2)
  have mTie : |q - m| = 1 / 2 := by
    rw [abs_of_nonpos (by linarith)]
    linarith
  have nTie : |q - n| = 1 / 2 := by
    rw [abs_of_nonneg (by linarith)]
    linarith
  have next : m = n + 1 := by
    have sum : (m : ℚ) = n + 1 := by linarith
    exact_mod_cast sum
  have mEven := nearest.even (by linarith)
  have nEven := other.even (by linarith)
  rw [next, Int.even_add_one] at mEven
  exact mEven nEven

theorem IsNearestEven.unique {q : ℚ} {m n : ℤ} (nearest : IsNearestEven q m)
    (other : IsNearestEven q n)
    : m = n :=
  le_antisymm (nearest.le other) (other.le nearest)

/-- A quotient halfway between two integers is rounded to the even one. -/
theorem divHalfEven_even {num den : Nat} (positive : 0 < den)
    (tie : 2 * num = (2 * divHalfEven num den + 1) * den
      ∨ 2 * num + den = 2 * divHalfEven num den * den)
    : Even (divHalfEven num den) := by
  have split := Nat.div_add_mod num den
  have small := Nat.mod_lt num positive
  have comm : den * (num / den) = num / den * den := Nat.mul_comm ..
  rw [Nat.even_iff]
  unfold divHalfEven at tie ⊢
  dsimp only at tie ⊢
  split at tie
  · next up =>
      rw [if_pos up]
      simp only [Nat.add_mul, Nat.mul_add, Nat.mul_assoc] at tie
      omega
  · next down =>
      rw [if_neg down]
      simp only [Nat.add_mul, Nat.mul_assoc] at tie
      omega

/-- A quotient is rounded to the nearest integer. -/
theorem isNearestEven_divHalfEven {num den : Nat} (positive : 0 < den)
    : IsNearestEven (num / den : ℚ) (divHalfEven num den : Nat) := by
  have within := @divHalfEven_within num den positive
  have even := @divHalfEven_even num den positive
  generalize divHalfEven num den = n at within even
  have denPositive : (0 : ℚ) < den := by exact_mod_cast positive
  have low : 2 * (num : ℚ) ≤ (2 * n + 1) * den := by exact_mod_cast within.1
  have high : 2 * ((n : ℚ) * den) ≤ 2 * num + den := by exact_mod_cast within.2
  have distance : 2 * |(num / den : ℚ) - ((n : Nat) : ℤ)|
      = |2 * (num : ℚ) - 2 * n * den| / den := by
    have scaled : 2 * ((num / den : ℚ) - ((n : Nat) : ℤ)) = (2 * num - 2 * n * den) / den := by
      push_cast
      field_simp
    rw [← abs_of_pos denPositive, ← abs_div, abs_of_pos denPositive, ← scaled, abs_mul,
      abs_of_pos (by norm_num : (0 : ℚ) < 2)]
  constructor
  · rw [distance, div_le_one denPositive, abs_le]
    constructor <;> linarith
  · rw [distance, div_eq_one_iff_eq denPositive.ne', abs_eq denPositive.le]
    intro tie
    rw [Int.even_coe_nat]
    refine even (tie.imp (fun up => ?_) fun down => ?_)
    · have sum : 2 * (num : ℚ) = (2 * n + 1) * den := by linarith
      exact_mod_cast sum
    · have sum : 2 * (num : ℚ) + den = 2 * n * den := by linarith
      exact_mod_cast sum

-----------------------------------------------------------------------------------------
-- Rounding to a place
-----------------------------------------------------------------------------------------

/-- The number has no digit after the place. -/
def EndsAt (place : ℤ) (q : ℚ) : Prop :=
  ∃ n : ℤ, q = n * 10 ^ place

/-- The number rounded once to the place, half to even. -/
def RoundsTo (place : ℤ) (q r : ℚ) : Prop :=
  ∃ n : ℤ, IsNearestEven (q / 10 ^ place) n ∧ r = n * 10 ^ place

variable {place fine coarse : ℤ} {q w r : ℚ}

theorem unit_pos (place : ℤ) : (0 : ℚ) < 10 ^ place :=
  zpow_pos (by norm_num) place

theorem EndsAt.neg (ends : EndsAt place q) : EndsAt place (-q) := by
  obtain ⟨n, rfl⟩ := ends
  exact ⟨-n, by push_cast; ring⟩

theorem EndsAt.sub (first : EndsAt place q) (second : EndsAt place r)
    : EndsAt place (q - r) := by
  obtain ⟨m, rfl⟩ := first
  obtain ⟨n, rfl⟩ := second
  exact ⟨m - n, by push_cast; ring⟩

/-- What ends at a place ends at every finer one. -/
theorem EndsAt.of_le (ends : EndsAt coarse q) (finer : fine ≤ coarse) : EndsAt fine q := by
  obtain ⟨n, rfl⟩ := ends
  obtain ⟨k, rfl⟩ := Int.le.dest finer
  refine ⟨n * 10 ^ k, ?_⟩
  rw [zpow_add₀ (by norm_num), zpow_natCast]
  push_cast
  ring

/-- Half a unit of a place ends at every finer place. -/
theorem endsAt_half_unit (finer : fine < coarse) : EndsAt fine (10 ^ coarse / 2) := by
  have ends : EndsAt (coarse - 1) (10 ^ coarse / 2) := by
    refine ⟨5, ?_⟩
    rw [zpow_sub_one₀ (by norm_num)]
    push_cast
    ring
  exact ends.of_le (by omega)

/-- A finer unit is at most a tenth of a coarse one. -/
theorem unit_le_tenth (finer : fine < coarse) : (10 : ℚ) ^ fine ≤ 10 ^ coarse / 10 := by
  rw [div_eq_mul_inv, ← zpow_sub_one₀ (by norm_num)]
  exact zpow_le_zpow_right₀ (by norm_num) (by omega)

/-- Numbers that end at a place are at least a unit apart. -/
theorem EndsAt.unit_le (ends : EndsAt place q) (positive : 0 < q) : 10 ^ place ≤ q := by
  obtain ⟨n, rfl⟩ := ends
  have unit := unit_pos place
  have above : (0 : ℚ) < n := pos_of_mul_pos_left positive unit.le
  have whole : (1 : ℚ) ≤ n := by exact_mod_cast Int.cast_pos.mp above
  exact le_mul_of_one_le_left unit.le whole

theorem RoundsTo.endsAt (rounds : RoundsTo place q r) : EndsAt place r := by
  obtain ⟨n, _, same⟩ := rounds
  exact ⟨n, same⟩

theorem RoundsTo.unique (rounds : RoundsTo place q w) (other : RoundsTo place q r) : w = r := by
  obtain ⟨m, nearest, rfl⟩ := rounds
  obtain ⟨n, alsoNearest, rfl⟩ := other
  rw [nearest.unique alsoNearest]

theorem RoundsTo.neg (rounds : RoundsTo place q r) : RoundsTo place (-q) (-r) := by
  obtain ⟨n, nearest, rfl⟩ := rounds
  refine ⟨-n, ?_, by push_cast; ring⟩
  rw [neg_div]
  exact nearest.neg

/-- In units of a place, a number is as far from an integer as it is from that many units. -/
theorem abs_div_unit_sub (place : ℤ) (q : ℚ) (n : ℤ)
    : |q / 10 ^ place - n| = |q - n * 10 ^ place| / 10 ^ place := by
  have unit := unit_pos place
  have scaled : q / 10 ^ place - n = (q - n * 10 ^ place) / 10 ^ place := by
    field_simp
  rw [scaled, abs_div, abs_of_pos unit]

/-- Rounding is off by at most half a unit of the place. -/
theorem RoundsTo.abs_sub_le (rounds : RoundsTo place q r) : 2 * |q - r| ≤ 10 ^ place := by
  obtain ⟨n, nearest, rfl⟩ := rounds
  have within := nearest.within
  rwa [abs_div_unit_sub, ← mul_div_assoc, div_le_one (unit_pos place)] at within

/-- What ends at a place and is less than half a unit away is what a number is rounded to. -/
theorem RoundsTo.of_abs_sub_lt (ends : EndsAt place r) (near : 2 * |q - r| < 10 ^ place)
    : RoundsTo place q r := by
  obtain ⟨n, rfl⟩ := ends
  have unit := unit_pos place
  have close : 2 * |q / 10 ^ place - n| < 1 := by
    rwa [abs_div_unit_sub, ← mul_div_assoc, div_lt_one unit]
  exact ⟨n, ⟨close.le, fun tie => absurd tie close.ne⟩, rfl⟩

/-- What ends at a place is not changed by rounding to it. -/
theorem EndsAt.roundsTo (ends : EndsAt place q) : RoundsTo place q q :=
  .of_abs_sub_lt ends (by simpa using unit_pos place)

theorem EndsAt.eq_of_roundsTo (ends : EndsAt place q) (rounds : RoundsTo place q r) : r = q :=
  rounds.unique ends.roundsTo

-----------------------------------------------------------------------------------------
-- Rounding twice
-----------------------------------------------------------------------------------------

/-- The number rounded to the fine place, and what comes of it to the coarse place. -/
structure RoundsTwice (fine coarse : ℤ) (q w r : ℚ) : Prop where
  first : RoundsTo fine q w
  second : RoundsTo coarse w r

/-- The first step ends halfway between two numbers of the coarse place, and the second one goes on
in its direction.
-/
def Overruns (coarse : ℤ) (q w r : ℚ) : Prop :=
  2 * |w - r| = 10 ^ coarse ∧ (q < w ∧ w < r ∨ r < w ∧ w < q)

namespace RoundsTwice

/-- Rounding twice to the same place is rounding once. -/
theorem eq_of_same (twice : RoundsTwice place place q w r) : r = w :=
  twice.first.endsAt.eq_of_roundsTo twice.second

/-- What ends at the coarse place is not changed. -/
theorem eq_of_endsAt (twice : RoundsTwice fine coarse q w r) (finer : fine ≤ coarse)
    (ends : EndsAt coarse q)
    : r = q := by
  have kept : w = q := (ends.of_le finer).eq_of_roundsTo twice.first
  exact ends.eq_of_roundsTo (kept ▸ twice.second)

/-- Rounding twice is off by at most a twentieth of a unit more than rounding once. -/
theorem error_le (twice : RoundsTwice fine coarse q w r) (finer : fine ≤ coarse)
    : |r - q| ≤ 11 / 20 * 10 ^ coarse := by
  have unit := unit_pos coarse
  have firstStep := twice.first.abs_sub_le
  have secondStep := twice.second.abs_sub_le
  rcases finer.eq_or_lt with rfl | finer
  · rw [twice.eq_of_same, abs_sub_comm]
    linarith
  · have tenth := unit_le_tenth finer
    have path := abs_sub_le q w r
    rw [abs_sub_comm r q]
    linarith

/-- Rounding twice upwards comes to a nearest number, unless both steps go up and the second one
does from halfway.
Witness: halfway between two numbers of the coarse place lies a number of the fine place, so that a
second step of less than half a unit leaves room for the first one.
-/
theorem roundsTo_of_lt (twice : RoundsTwice fine coarse q w r) (finer : fine < coarse)
    (up : q < w) (within : ¬Overruns coarse q w r)
    : RoundsTo coarse q r := by
  have firstStep := twice.first.abs_sub_le
  have secondStep := abs_le.mp (by linarith [twice.second.abs_sub_le] : |w - r| ≤ 10 ^ coarse / 2)
  have tenth := unit_le_tenth finer
  rw [abs_of_neg (by linarith)] at firstStep
  have finePositive := unit_pos fine
  refine .of_abs_sub_lt twice.second.endsAt ?_
  rcases lt_or_ge w r with onwards | back
  · have notHalf : w - r ≠ -(10 ^ coarse / 2) := by
      intro half
      refine within ⟨?_, .inl ⟨up, onwards⟩⟩
      rw [abs_of_neg (by linarith)]
      linarith
    have short : 0 < w - r + 10 ^ coarse / 2 := by
      have apart := lt_of_le_of_ne secondStep.1 (Ne.symm notHalf)
      linarith
    have ends : EndsAt fine (w - r + 10 ^ coarse / 2) := by
      have parts := (twice.first.endsAt.sub (twice.second.endsAt.of_le finer.le)).sub
        (endsAt_half_unit finer).neg
      rwa [sub_neg_eq_add] at parts
    have room := ends.unit_le short
    rw [abs_of_neg (by linarith)]
    linarith
  · rw [mul_comm, ← lt_div_iff₀ (by norm_num), abs_lt]
    constructor <;> linarith

theorem neg (twice : RoundsTwice fine coarse q w r)
    : RoundsTwice fine coarse (-q) (-w) (-r) :=
  ⟨twice.first.neg, twice.second.neg⟩

end RoundsTwice

theorem Overruns.neg (overruns : Overruns coarse q w r) : Overruns coarse (-q) (-w) (-r) := by
  obtain ⟨half, direction⟩ := overruns
  refine ⟨?_, ?_⟩
  · rw [← half, ← abs_neg]
    congr 2
    ring
  · simpa only [neg_lt_neg_iff, or_comm, and_comm] using direction

theorem Overruns.not_roundsTo (overruns : Overruns coarse q w r) : ¬RoundsTo coarse q r := by
  intro rounds
  have step := rounds.abs_sub_le
  obtain ⟨half, ⟨up, onwards⟩ | ⟨onwards, down⟩⟩ := overruns
  · rw [abs_of_neg (by linarith)] at half step
    linarith
  · rw [abs_of_pos (by linarith)] at half step
    linarith

/-- Rounding twice comes to the same as rounding once, unless the first step ends halfway and the
second one goes on in its direction.
-/
theorem RoundsTwice.roundsTo_iff (twice : RoundsTwice fine coarse q w r) (finer : fine ≤ coarse)
    : RoundsTo coarse q r ↔ ¬Overruns coarse q w r := by
  refine ⟨fun rounds overruns => overruns.not_roundsTo rounds, fun within => ?_⟩
  rcases finer.eq_or_lt with rfl | finer
  · rw [twice.eq_of_same]
    exact twice.first
  · rcases lt_trichotomy q w with up | rfl | down
    · exact twice.roundsTo_of_lt finer up within
    · exact twice.second
    · have turned : ¬Overruns coarse (-q) (-w) (-r) := fun overruns => within (by
        simpa only [neg_neg] using overruns.neg)
      have rounds := (twice.neg.roundsTo_of_lt finer (neg_lt_neg down) turned).neg
      simpa only [neg_neg] using rounds

end LiveIni.Number
