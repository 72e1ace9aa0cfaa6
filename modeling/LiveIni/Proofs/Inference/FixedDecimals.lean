import LiveIni.Proofs.Inference.Reading
import LiveIni.Proofs.Number.DecimalRounding

/-!
Fixed decimals are rounded twice: to 29 digits, and what comes of it to 28 places after the point. For
numbers of at least one this is one rounding. Below one it is one rounding unless the first one ends
halfway between two decimals of 28 places and the second one goes on in its direction.
-/

namespace LiveIni

open Number

namespace Inference

/-- The place of the last of 29 digits. -/
def digitPlace (q : ℚ) : ℤ :=
  Int.log 10 |q| - 28

/-- The last place that a fixed decimal near the number has: the coarser of the last of 29 digits and
the last of 28 places after the point.
-/
def lastPlace (q : ℚ) : ℤ :=
  max (-28) (digitPlace q)

theorem digitPlace_le_lastPlace (q : ℚ) : digitPlace q ≤ lastPlace q :=
  le_max_right ..

/-- A number of at least one has no digit after the 28 places among its first 29. -/
theorem lastPlace_of_one_le {q : ℚ} (atLeastOne : 1 ≤ |q|) : lastPlace q = digitPlace q := by
  have leading : 0 ≤ Int.log 10 |q| :=
    (Int.zpow_le_iff_le_log (b := 10) (by norm_num) (by linarith)).mp (by simpa using atLeastOne)
  unfold lastPlace digitPlace
  omega

/-- The last place at a decimal that is not zero. -/
theorem lastPlace_value {d : Decimal} (nonzero : d.coefficient ≠ 0)
    : lastPlace d.value = max (-28) (d.adjusted - 28) := by
  rw [lastPlace, digitPlace, d.adjusted_eq_log nonzero]

-----------------------------------------------------------------------------------------
-- Fitting decimals
-----------------------------------------------------------------------------------------

theorem exceedsFixed_iff {d : Decimal} : exceedsFixed d = true ↔ maxFixed.value < |d.value| := by
  rw [exceedsFixed, decide_eq_true_iff, Decimal.compare_eq_gt_iff, Decimal.value_abs]

theorem toFixed?_eq_some_iff {d r : Decimal}
    : toFixed? d = some r
      ↔ exceedsFixed d = false ∧ exceedsFixed r = false
        ∧ (r.coefficient = 0 → d.coefficient = 0)
        ∧ (d.roundDigits 29).roundTo (-28) = r := by
  unfold toFixed? Decimal.isZero
  dsimp only
  constructor
  · intro fixed
    split at fixed
    · cases fixed
    · next within =>
        split at fixed
        · cases fixed
        · next kept =>
            cases fixed
            simp only [Bool.or_eq_true, Bool.and_eq_true, decide_eq_true_eq, not_or, not_and,
              Bool.not_eq_true', decide_eq_false_iff_not, not_not] at within kept
            exact ⟨eq_false_of_ne_true within, eq_false_of_ne_true kept.1, kept.2, rfl⟩
  · rintro ⟨within, stillWithin, zero, rfl⟩
    rw [within, stillWithin]
    simp only [Bool.false_eq_true, if_false, Bool.false_or, Bool.and_eq_true, decide_eq_true_eq,
      Bool.not_eq_true', decide_eq_false_iff_not]
    rw [if_neg fun both => both.2 (zero both.1)]

/-- A value is a fixed decimal only if it was fitted into that kind. -/
theorem toFixed?_of_fit? {d r : Decimal} {kind : NumberKind}
    (fits : fit? d kind = some (.decimal r))
    : toFixed? d = some r := by
  cases kind with
  | integer type =>
      obtain ⟨n, _, held⟩ := Option.bind_eq_some_iff.mp fits
      split at held <;> cases held
  | bigint => simp [fit?] at fits
  | decimal => simpa [fit?] using fits
  | double => simp [fit?] at fits

/-- A decimal is rounded to 29 digits, and what comes of it to the last place. -/
theorem exists_roundsTwice (d : Decimal)
    : ∃ w, RoundsTwice (digitPlace d.value) (lastPlace d.value) d.value w
        ((d.roundDigits 29).roundTo (-28)).value := by
  have first : RoundsTo (digitPlace d.value) d.value (d.roundDigits 29).value :=
    d.roundDigits_roundsTo 29 (by norm_num)
  have second := (d.roundDigits 29).roundTo_roundsTo (-28)
  refine ⟨(d.roundDigits 29).value, first, ?_⟩
  rcases le_or_gt (digitPlace d.value) (-28) with fine | coarse
  · rwa [lastPlace, max_eq_left fine]
  · rw [lastPlace, max_eq_right coarse.le, (first.endsAt.of_le coarse.le).eq_of_roundsTo second]
    exact first.endsAt.roundsTo

/-- Rounded to 29 digits and to 28 places, a decimal has no more digits and places. -/
theorem form_of_rounding (d : Decimal)
    : -28 ≤ ((d.roundDigits 29).roundTo (-28)).exponent
      ∧ ((d.roundDigits 29).roundTo (-28)).coefficient < tenTo 29 := by
  have bound := d.coefficient_roundDigits_lt 29
  unfold Decimal.roundTo
  split
  · next finer =>
      obtain ⟨k, some⟩ : ∃ k, (-28 - (d.roundDigits 29).exponent).toNat = k + 1 :=
        ⟨_, (Nat.succ_pred_eq_of_pos (by omega)).symm⟩
      refine ⟨le_rfl, ?_⟩
      have fewer : divHalfEven (d.roundDigits 29).coefficient (tenTo (k + 1)) ≤ tenTo 28 :=
        Decimal.divHalfEven_le_tenTo (bound.trans_le (tenTo_le_tenTo (by omega)))
      dsimp only
      rw [some]
      exact fewer.trans_lt (by decide)
  · next coarser => exact ⟨not_lt.mp coarser, bound⟩

/-- A fixed decimal has at most 28 places after the point and at most 29 digits. -/
theorem form_of_toFixed? {d r : Decimal} (fixed : toFixed? d = some r)
    : -28 ≤ r.exponent ∧ r.coefficient < tenTo 29 := by
  obtain ⟨_, _, _, rfl⟩ := toFixed?_eq_some_iff.mp fixed
  exact form_of_rounding d

/-- A fixed decimal needs no rounding. -/
theorem endsAt_lastPlace {d r : Decimal} (fixed : toFixed? d = some r)
    : EndsAt (lastPlace r.value) r.value := by
  obtain ⟨places, digits⟩ := form_of_toFixed? fixed
  by_cases zero : r.coefficient = 0
  · exact ⟨0, by simp [r.value_eq_zero_iff.mpr zero]⟩
  · have counted := Decimal.digitCount_le (by decide) digits
    refine r.endsAt_exponent.of_le ?_
    rw [lastPlace_value zero, Decimal.adjusted]
    omega

/-- What has the value of a fixed decimal is fitted into one of the same value. -/
theorem exists_toFixed? {d r e : Decimal} (fixed : toFixed? d = some r) (same : e.value = r.value)
    : ∃ s, toFixed? e = some s ∧ s.value = r.value := by
  obtain ⟨w, twice⟩ := exists_roundsTwice e
  have kept : ((e.roundDigits 29).roundTo (-28)).value = r.value := by
    rw [twice.eq_of_endsAt (digitPlace_le_lastPlace _) (same ▸ endsAt_lastPlace fixed), same]
  have within : ∀ f : Decimal, f.value = r.value → exceedsFixed f = false := by
    intro f value
    have bound := (toFixed?_eq_some_iff.mp fixed).2.1
    rw [← Bool.not_eq_true, exceedsFixed_iff] at bound ⊢
    rwa [value]
  refine ⟨_, toFixed?_eq_some_iff.mpr ⟨within e same, within _ kept, fun zero => ?_, rfl⟩, kept⟩
  rw [← Decimal.value_eq_zero_iff, kept] at zero
  rw [← Decimal.value_eq_zero_iff, same, zero]

/-- The literal that is read as a fixed decimal is rounded to 29 digits, and what comes of it to the
last place that a fixed decimal has there. So it is off by at most 0.55 units of that place, and not
at all if it ends there. It is the literal's value rounded once, half to even, if that is at least
one, and otherwise unless the first rounding ends halfway and the second one goes on from there.
Witness: for numbers of at least one the second rounding changes nothing.
-/
theorem readNumber_decimal_rounded {format : NumberFormat} {t : Text} {r : Decimal}
    (read : readNumber format t = .ok (.number (.decimal r)))
    : ∃ l normalized w, format.Writes l t normalized
        ∧ RoundsTwice (digitPlace l.value) (lastPlace l.value) l.value w r.value
        ∧ |r.value - l.value| ≤ 11 / 20 * 10 ^ lastPlace l.value
        ∧ (EndsAt (lastPlace l.value) l.value → r.value = l.value)
        ∧ (1 ≤ |l.value| → RoundsTo (lastPlace l.value) l.value r.value)
        ∧ (RoundsTo (lastPlace l.value) l.value r.value
          ↔ ¬Overruns (lastPlace l.value) l.value w r.value) := by
  obtain ⟨l, normalized, d, kind, writes, value, fits⟩ := exists_fit?_of_readNumber read
  have fixed := toFixed?_of_fit? fits
  obtain ⟨_, _, _, rfl⟩ := toFixed?_eq_some_iff.mp fixed
  obtain ⟨w, twice⟩ := exists_roundsTwice d
  rw [value] at twice
  have finer := digitPlace_le_lastPlace l.value
  refine ⟨l, normalized, w, writes, twice, twice.error_le finer, twice.eq_of_endsAt finer, ?_,
    twice.roundsTo_iff finer⟩
  intro atLeastOne
  rw [lastPlace_of_one_le atLeastOne] at twice ⊢
  rw [twice.eq_of_same]
  exact twice.first

/-- One and a half units of the last place below zero. -/
def negativeTie : Literal where
  negative := true
  magnitude := .decimal ['1'] (some ['5']) (some ⟨true, ['2', '8']⟩)
  width := none
  multiplier := none

/-- A literal halfway between two fixed decimals is rounded to the even one. -/
theorem readNumber_decimal_rounded_negativeTie
    : let t := "-1.5e-28".toList
      readNumber NumberFormat.invariant t = .ok (.number (.decimal ⟨true, 2, -28⟩))
        ∧ NumberFormat.invariant.Writes negativeTie t t
        ∧ RoundsTo (-28) negativeTie.value (Decimal.value ⟨true, 2, -28⟩) := by
  intro t
  have read : readNumber NumberFormat.invariant t = .ok (.number (.decimal ⟨true, 2, -28⟩)) := by
    decide +kernel
  have writes : NumberFormat.invariant.Writes negativeTie t t :=
    ⟨by decide +kernel, (Literal.read?_eq_some_iff (by constructor <;> decide)).mp (by decide)⟩
  have found : negativeTie.toDecimal = .ok ⟨true, 15, -29⟩ := by decide +kernel
  have value := Literal.value_of_toDecimal found
  have place : lastPlace negativeTie.value = -28 := by
    rw [← value, lastPlace_value (by decide)]
    decide +kernel
  obtain ⟨l, normalized, w, writesSame, twice, _, _, _, once⟩ := readNumber_decimal_rounded read
  obtain ⟨rfl, rfl⟩ := writesSame.unique writes
  rw [place] at twice once
  refine ⟨read, writes, once.mpr fun overruns => ?_⟩
  -- The literal has few digits, so that the first rounding keeps it.
  have kept : w = negativeTie.value := by
    refine EndsAt.eq_of_roundsTo ?_ twice.first
    rw [← value]
    refine (Decimal.endsAt_exponent _).of_le ?_
    rw [digitPlace, ← Decimal.adjusted_eq_log _ (by decide)]
    decide +kernel
  rcases overruns.2 with ⟨below, _⟩ | ⟨_, above⟩
  · exact below.ne kept.symm
  · exact above.ne kept

/-- Just less than one and a half units of the last place, in 30 digits. -/
def belowTie : Literal where
  negative := false
  magnitude := .decimal ['1'] (some ('4' :: List.replicate 28 '9')) (some ⟨true, ['2', '8']⟩)
  width := none
  multiplier := none

/-- A literal that is nearer to one unit of the last place is read as two: its 29 digits are one and a
half units, and these are rounded to the even number of them.
-/
theorem readNumber_decimal_passes_nearest
    : let t := "1.49999999999999999999999999999e-28".toList
      NumberFormat.invariant.Writes belowTie t t
        ∧ readNumber NumberFormat.invariant t = .ok (.number (.decimal ⟨false, 2, -28⟩))
        ∧ RoundsTo (lastPlace belowTie.value) belowTie.value (Decimal.value ⟨false, 1, -28⟩)
        ∧ ¬RoundsTo (lastPlace belowTie.value) belowTie.value
            (Decimal.value ⟨false, 2, -28⟩) := by
  intro t
  have found : belowTie.toDecimal = .ok ⟨false, 149999999999999999999999999999, -57⟩ := by
    decide +kernel
  have value := Literal.value_of_toDecimal found
  have place : lastPlace belowTie.value = -28 := by
    rw [← value, lastPlace_value (by decide)]
    decide +kernel
  have nearest : RoundsTo (-28) belowTie.value (Decimal.value ⟨false, 1, -28⟩) := by
    refine .of_abs_sub_lt (Decimal.endsAt_exponent _) ?_
    rw [← value]
    norm_num [Decimal.value, Decimal.signedCoefficient, abs_of_pos]
  rw [place]
  refine ⟨⟨by decide +kernel, (Literal.read?_eq_some_iff (by constructor <;> decide)).mp
    (by decide +kernel)⟩, by decide +kernel, nearest, fun other => ?_⟩
  have same := nearest.unique other
  norm_num [Decimal.value, Decimal.signedCoefficient] at same

end Inference

end LiveIni
