import LiveIni.Proofs.Literal.Positional
import LiveIni.Proofs.Number.DecimalRounding

/-!
The places after the point that a decimal is written with. Of two forms of one number, the positional
texts are the same exactly if both have as many places.
-/

namespace LiveIni

open Number

/-- Digits with zeros after them are the digits of a larger number, by induction on the zeros. -/
theorem Text.ofNat_mul_pow {n : Nat} (positive : 0 < n) (zeros : Nat)
    : ofNat (n * 10 ^ zeros) = ofNat n ++ List.replicate zeros '0' := by
  induction zeros with
  | zero => simp
  | succ zeros ih =>
      have some : 0 < n * 10 ^ zeros := Nat.mul_pos positive (Nat.pow_pos (by decide))
      have last : ofNat 0 = ['0'] := rfl
      have longer : ofNat (n * 10 ^ zeros) ++ ofNat 0 = ofNat (10 * (n * 10 ^ zeros) + 0) :=
        Nat.toDigits_append_toDigits (by decide) some (by decide)
      have moved : n * 10 ^ (zeros + 1) = 10 * (n * 10 ^ zeros) + 0 := by ring
      rw [moved, ← longer, ih, last, List.append_assoc, List.replicate_succ']

/-- The number of characters after the first point of a text. -/
def Text.afterPoint (t : Text) : Nat :=
  (t.dropWhile (· ≠ '.')).length - 1

theorem Text.afterPoint_append {before : Text} (none : ∀ c ∈ before, c ≠ '.') (after : Text)
    : afterPoint (before ++ '.' :: after) = after.length := by
  rw [afterPoint, List.dropWhile_append_of_pos fun c member => decide_eq_true (none c member)]
  rfl

theorem Text.afterPoint_of_not_mem {t : Text} (none : ∀ c ∈ t, c ≠ '.') : t.afterPoint = 0 := by
  have within : ∀ c ∈ t, decide (c ≠ '.') = true := fun c member => decide_eq_true (none c member)
  rw [afterPoint, ← List.append_nil t, List.dropWhile_append_of_pos within]
  rfl

namespace Number.Decimal

open Literal (pointed)

/-- The number of digits that a decimal is written with after the point. -/
def places (d : Decimal) : Nat :=
  (-d.exponent).toNat

/-- The decimal is not a zero with a sign. -/
def IsPlain (d : Decimal) : Prop :=
  d.coefficient = 0 → d.negative = false

theorem ne_point_of_mem_withSign {negative : Bool} {whole : Text}
    (decimal : ∀ c ∈ whole, c.isDigit = true)
    : ∀ c ∈ withSign negative whole, c ≠ '.' := by
  have ofDigit : ∀ c ∈ whole, c ≠ '.' := by
    rintro c member rfl
    cases decimal '.' member
  cases negative with
  | false => exact ofDigit
  | true => exact List.forall_mem_cons.mpr ⟨by decide, ofDigit⟩

theorem afterPoint_positional (d : Decimal) : d.positional.afterPoint = d.places := by
  obtain ⟨whole, fraction, writes⟩ := d.exists_writesPositional
  have before := @ne_point_of_mem_withSign d.negative whole writes.decimal
  have text : d.positional = withSign d.negative whole ++ pointed fraction := by
    rw [writes.text, Literal.withSign_eq_append, ← List.append_assoc,
      ← Literal.withSign_eq_append]
  have places := writes.places
  rw [text, Decimal.places]
  cases fraction with
  | none =>
      split at places
      · rw [pointed, List.append_nil, Text.afterPoint_of_not_mem before]
        omega
      · cases places
  | some digits =>
      split at places
      · cases places
      · rw [pointed, Text.afterPoint_append before]
        exact Option.some.inj places

/-- Without places after the point, the text is that of an integer. -/
theorem positional_of_nonneg {d : Decimal} (whole : 0 ≤ d.exponent)
    : d.positional = withSign d.negative (Text.ofNat (d.coefficient * 10 ^ d.exponent.toNat)) := by
  rcases Nat.eq_zero_or_pos d.coefficient with zero | positive
  · have none : Text.ofNat 0 = ['0'] := rfl
    rw [positional, if_pos ⟨decide_eq_true zero, whole⟩, zero, Nat.zero_mul, none]
  · have notZero : ¬(d.isZero = true ∧ 0 ≤ d.exponent) := by
      rw [isZero, decide_eq_true_eq]
      omega
    have points := points_after (fun _ => Text.isDigit_of_mem_ofNat) whole
      (Nat.toDigits_ne_nil : Text.ofNat d.coefficient ≠ [])
    rw [positional, if_neg notZero, points.text, pointed, List.append_nil,
      Text.ofNat_mul_pow positive]

/-- The sign of a number, unless it is a zero with a sign. -/
theorem IsPlain.negative_iff {d : Decimal} (plain : d.IsPlain) : d.negative = true ↔ d.value < 0 := by
  have unit := unit_pos d.exponent
  rw [value_eq_signed]
  constructor
  · intro negative
    have some : (0 : ℚ) < d.coefficient := by
      rw [Nat.cast_pos, Nat.pos_iff_ne_zero]
      intro zero
      rw [plain zero] at negative
      cases negative
    rw [if_pos negative, neg_lt_zero]
    exact mul_pos some unit
  · intro below
    split at below
    · assumption
    · exact absurd below (not_lt.mpr (mul_nonneg (Nat.cast_nonneg _) unit.le))

variable {a b : Decimal}

/-- Of two decimals with the same value, neither a zero with a sign, just those with as many places
after the point have the same text.
-/
theorem positional_eq_iff (plain : a.IsPlain) (plain' : b.IsPlain) (same : a.value = b.value)
    : a.positional = b.positional ↔ a.places = b.places := by
  constructor
  · intro texts
    rw [← afterPoint_positional, texts, afterPoint_positional]
  · intro places
    have sign : a.negative = b.negative := by
      rw [Bool.eq_iff_iff, plain.negative_iff, plain'.negative_iff, same]
    have size : (a.coefficient * 10 ^ a.exponent : ℚ) = b.coefficient * 10 ^ b.exponent := by
      rw [← abs_value, ← abs_value, same]
    unfold Decimal.places at places
    rcases le_or_gt 0 a.exponent with whole | fractional
    · have whole' : 0 ≤ b.exponent := by omega
      rw [positional_of_nonneg whole, positional_of_nonneg whole', sign]
      obtain ⟨m, exponent⟩ := Int.eq_ofNat_of_zero_le whole
      obtain ⟨n, exponent'⟩ := Int.eq_ofNat_of_zero_le whole'
      rw [exponent, exponent', zpow_natCast, zpow_natCast] at size
      rw [exponent, exponent', Int.toNat_natCast, Int.toNat_natCast]
      congr 2
      exact_mod_cast size
    · have exponents : a.exponent = b.exponent := by omega
      rw [exponents] at size
      have coefficients := mul_right_cancel₀ (unit_pos b.exponent).ne' size
      rw [positional, positional, isZero, isZero, Nat.cast_inj.mp coefficients, exponents, sign]

end Number.Decimal

end LiveIni
