import LiveIni.Proofs.Literal.Normalization
import LiveIni.Proofs.Literal.Spelling
import LiveIni.Proofs.Literal.Value
import LiveIni.Proofs.Text.Cutting
import Mathlib.Tactic.IntervalCases

/-!
Positional texts: the literals without a power of ten, a width or a multiplier. The positional text of
a decimal writes such a literal of the same value, with as many digits after the point as its exponent
says. In a number format that has its own separators it may not be the same number any more.
-/

namespace LiveIni

open Number

-----------------------------------------------------------------------------------------
-- Digits
-----------------------------------------------------------------------------------------

namespace Text

theorem isDigit_of_mem_ofNat {c : Char} {n : Nat} (member : c ∈ ofNat n) : c.isDigit = true :=
  Nat.isDigit_of_mem_toDigits (by decide) (by decide) member

theorem isDigit_of_mem_zeros {c : Char} {n : Nat} (member : c ∈ List.replicate n '0')
    : c.isDigit = true := by
  cases List.eq_of_mem_replicate member
  rfl

theorem decimalValue_ofNat (n : Nat) : decimalValue (ofNat n) = n := by
  have read := Nat.ofDigitChars_ten_toDigits (n := n)
  rw [Nat.ofDigitChars_eq_foldl] at read
  rw [← toNat_eq_decimalValue, toNat, ofNat]
  simpa only [Nat.mul_comm] using read

theorem decimalValue_append (s t : Text)
    : decimalValue (s ++ t) = decimalValue s * 10 ^ t.length + decimalValue t :=
  positional_append s t

theorem decimalValue_zeros (n : Nat) : decimalValue (List.replicate n '0') = 0 :=
  decimalValue_of_zeros fun _ member => List.eq_of_mem_replicate member

/-- A decimal digit counts less than ten, and as nothing only if it is zero. -/
theorem digit_bounds {c : Char} (decimal : c.isDigit = true)
    : c.toNat - '0'.toNat < 10 ∧ (c.toNat - '0'.toNat = 0 → c = '0') := by
  rw [Char.isDigit, Bool.and_eq_true, decide_eq_true_eq, decide_eq_true_eq] at decimal
  have low : 48 ≤ c.toNat := UInt32.le_iff_toNat_le.mp decimal.1
  have high : c.toNat ≤ 57 := UInt32.le_iff_toNat_le.mp decimal.2
  have zero : '0'.toNat = 48 := rfl
  refine ⟨by omega, fun none => ?_⟩
  have code : c.toNat = 48 := by omega
  rw [← Char.ofNat_toNat c, code]

/-- A hexadecimal digit counts less than sixteen, and as nothing only if it is zero. -/
theorem digitValue_bounds {c : Char} (hexadecimal : isHexDigit c = true)
    : digitValue c < 16 ∧ (digitValue c = 0 → c = '0') := by
  simp only [isHexDigit, Char.isDigit, Bool.or_eq_true, Bool.and_eq_true, decide_eq_true_eq,
    ge_iff_le, UInt32.le_iff_toNat_le, Char.le_def] at hexadecimal
  have ranges : (48 ≤ c.toNat ∧ c.toNat ≤ 57 ∨ 97 ≤ c.toNat ∧ c.toNat ≤ 102)
      ∨ 65 ≤ c.toNat ∧ c.toNat ≤ 70 :=
    hexadecimal
  rw [← Char.ofNat_toNat c]
  generalize c.toNat = n at ranges
  rcases ranges with (⟨low, high⟩ | ⟨low, high⟩) | ⟨low, high⟩ <;> interval_cases n <;> decide

/-- Digits write less than the power of ten that has one digit more. -/
theorem decimalValue_lt {digits : Text} (decimal : ∀ c ∈ digits, c.isDigit = true)
    : decimalValue digits < 10 ^ digits.length :=
  positional_lt fun c member => (digit_bounds (decimal c member)).1

end Text

-----------------------------------------------------------------------------------------
-- Literals in positional notation
-----------------------------------------------------------------------------------------

namespace Literal

/-- A fraction with its point, if there is one. -/
def pointed : Option Text → Text
  | none => []
  | some digits => '.' :: digits

/-- A literal without a power of ten, a width or a multiplier. -/
def positional (negative : Bool) (whole : Text) (fraction : Option Text) : Literal :=
  ⟨negative, .decimal whole fraction none, none, none⟩

/-- The digits around the point of a positional literal. -/
structure PositionalDigits (whole : Text) (fraction : Option Text) : Prop where
  decimal : ∀ c ∈ whole, c.isDigit = true
  nonempty : whole ≠ []
  fractional : ∀ digits ∈ fraction, ∀ c ∈ digits, c.isDigit = true

/-- The value of a positional literal is that of all its digits, moved to their places. -/
theorem value_positional (negative : Bool) (whole : Text) (fraction : Option Text)
    : (positional negative whole fraction).value
      = (if negative then -1 else 1) * (Text.decimalValue (whole ++ fraction.getD [])
        * 10 ^ (-((fraction.getD []).length : ℤ))) := by
  have moved (whole fraction : Nat) (n : Nat)
      : (whole : ℚ) + fraction / 10 ^ n = (whole * 10 ^ n + fraction : ℚ) * 10 ^ (-(n : ℤ)) := by
    rw [zpow_neg, zpow_natCast]
    field_simp
  change _ * (_ * 10 ^ (0 : ℤ)) * 1024 ^ 0 = _
  rw [zpow_zero, pow_zero, mul_one, mul_one, moved, Text.decimalValue_append]
  push_cast
  rfl

end Literal

namespace Number.Decimal

open Literal (pointed)

-----------------------------------------------------------------------------------------
-- The positional text of a decimal
-----------------------------------------------------------------------------------------

/-- Digits moved to an exponent by a point: there are as many digits after the point as the exponent
says, and there is no point if there are none.
-/
structure Points (digits : Text) (exponent : ℤ) (whole : Text) (fraction : Option Text)
    : Prop extends Literal.PositionalDigits whole fraction where
  text : withPoint digits (exponent + digits.length) = whole ++ pointed fraction
  places : fraction.map List.length = if 0 ≤ exponent then none else some (-exponent).toNat
  value : (Text.decimalValue (whole ++ fraction.getD []) : ℚ)
      * 10 ^ (-((fraction.getD []).length : ℤ))
    = Text.decimalValue digits * 10 ^ exponent

section Points

variable {digits : Text} (decimal : ∀ c ∈ digits, c.isDigit = true) {exponent : ℤ}
include decimal

/-- All the digits stand after the point, with zeros in front of them. -/
theorem points_before (small : exponent + digits.length ≤ 0) (nonempty : digits ≠ [])
    : Points digits exponent ['0']
        (some (List.replicate (-(exponent + digits.length)).toNat '0' ++ digits)) := by
  have length := List.length_pos_iff.mpr nonempty
  have places : (-(exponent + digits.length)).toNat + digits.length = (-exponent).toNat := by
    omega
  have negative : ¬0 ≤ exponent := by omega
  constructor
  case toPositionalDigits =>
    refine ⟨List.forall_mem_singleton.mpr rfl, List.cons_ne_nil _ _, ?_⟩
    intro _ same c member
    cases same
    exact (List.mem_append.mp member).elim Text.isDigit_of_mem_zeros (decimal c)
  case text => rw [withPoint, if_pos small]; rfl
  case places =>
    rw [if_neg negative, Option.map_some, List.length_append, List.length_replicate, places]
  case value =>
    have zeros : Text.decimalValue ['0'] = 0 := rfl
    have power : -(((-exponent).toNat : ℕ) : ℤ) = exponent := by omega
    simp only [Option.getD_some, Text.decimalValue_append, List.length_append,
      List.length_replicate, places, zeros, Text.decimalValue_zeros, Nat.zero_mul, Nat.zero_add,
      power]

/-- All the digits stand before the point, with zeros after them. -/
theorem points_after (large : 0 ≤ exponent) (nonempty : digits ≠ [])
    : Points digits exponent (digits ++ List.replicate exponent.toNat '0') none := by
  have length := List.length_pos_iff.mpr nonempty
  have notBefore : ¬exponent + digits.length ≤ 0 := by omega
  have after : (digits.length : ℤ) ≤ exponent + digits.length := by omega
  have zeros : (exponent + digits.length).toNat - digits.length = exponent.toNat := by omega
  constructor
  case toPositionalDigits =>
    refine ⟨fun c member => ?_, by simp [nonempty], nofun⟩
    exact (List.mem_append.mp member).elim (decimal c) Text.isDigit_of_mem_zeros
  case text => rw [withPoint, if_neg notBefore, if_pos after, zeros]; simp [pointed]
  case places => rw [if_pos large]; rfl
  case value =>
    obtain ⟨n, rfl⟩ := Int.eq_ofNat_of_zero_le large
    simp [Text.decimalValue_append, Text.decimalValue_zeros]

/-- The point stands among the digits. -/
theorem points_within (positive : 0 < exponent + digits.length) (small : exponent < 0)
    : Points digits exponent (digits.take (exponent + digits.length).toNat)
        (some (digits.drop (exponent + digits.length).toNat)) := by
  have notBefore : ¬exponent + digits.length ≤ 0 := by omega
  have notAfter : ¬(digits.length : ℤ) ≤ exponent + digits.length := by omega
  have negative : ¬0 ≤ exponent := by omega
  have places : digits.length - (exponent + digits.length).toNat = (-exponent).toNat := by omega
  constructor
  case toPositionalDigits =>
    refine ⟨fun c member => decimal c (List.mem_of_mem_take member), ?_, ?_⟩
    · rw [ne_eq, List.take_eq_nil_iff, ← List.length_eq_zero_iff]
      omega
    · intro _ same c member
      cases same
      exact decimal c (List.mem_of_mem_drop member)
  case text => rw [withPoint, if_neg notBefore, if_neg notAfter]; rfl
  case places => rw [if_neg negative, Option.map_some, List.length_drop, places]
  case value =>
    have power : -(((-exponent).toNat : ℕ) : ℤ) = exponent := by omega
    rw [Option.getD_some, List.take_append_drop, List.length_drop, places, power]

theorem exists_points (nonempty : digits ≠ []) (exponent : ℤ)
    : ∃ whole fraction, Points digits exponent whole fraction := by
  rcases le_or_gt (exponent + digits.length) 0 with before | notBefore
  · exact ⟨_, _, points_before decimal before nonempty⟩
  · rcases le_or_gt 0 exponent with after | within
    · exact ⟨_, _, points_after decimal after nonempty⟩
    · exact ⟨_, _, points_within decimal notBefore within⟩

end Points

/-- The positional text of a decimal writes the digits around the point. -/
structure WritesPositional (d : Decimal) (whole : Text) (fraction : Option Text)
    : Prop extends Literal.PositionalDigits whole fraction where
  text : d.positional = withSign d.negative (whole ++ pointed fraction)
  places : fraction.map List.length = if 0 ≤ d.exponent then none else some (-d.exponent).toNat
  value : (Literal.positional d.negative whole fraction).value = d.value

/-- A decimal writes the digits of its coefficient, with its exponent as the place of the last one, and
just a zero if it is zero without digits after the point.
-/
theorem exists_writesPositional (d : Decimal)
    : ∃ whole fraction, d.WritesPositional whole fraction := by
  by_cases zero : d.coefficient = 0 ∧ 0 ≤ d.exponent
  · have isZero : d.isZero = true := decide_eq_true zero.1
    refine ⟨['0'], none, ⟨⟨List.forall_mem_singleton.mpr rfl, List.cons_ne_nil _ _, nofun⟩, ?_, ?_, ?_⟩⟩
    · rw [positional, if_pos ⟨isZero, zero.2⟩]
      rfl
    · rw [if_pos zero.2]
      rfl
    · have noValue : Text.decimalValue ['0'] = 0 := rfl
      rw [Literal.value_positional, d.value_eq_zero_iff.mpr zero.1]
      simp [noValue]
  · have decimal : ∀ c ∈ Text.ofNat d.coefficient, c.isDigit = true :=
      fun _ => Text.isDigit_of_mem_ofNat
    obtain ⟨whole, fraction, points⟩ := exists_points decimal Nat.toDigits_ne_nil d.exponent
    refine ⟨whole, fraction, ⟨points.toPositionalDigits, ?_, points.places, ?_⟩⟩
    · have notShort : ¬(d.isZero = true ∧ 0 ≤ d.exponent) := by
        rwa [isZero, decide_eq_true_eq]
      rw [positional, if_neg notShort, points.text]
    · rw [Literal.value_positional, points.value, Text.decimalValue_ofNat, value,
        signedCoefficient]
      split <;> simp

end Number.Decimal

namespace Literal

open Decimal (withSign)

-----------------------------------------------------------------------------------------
-- Points in literals
-----------------------------------------------------------------------------------------

theorem count_point_of_digits {digits : Text} (decimal : ∀ c ∈ digits, c.isDigit = true)
    : digits.count '.' = 0 :=
  List.count_eq_zero.mpr fun member => absurd (decimal '.' member) (by decide)

/-- No point stands in letters that are lower-case letters in any case. -/
theorem count_point_of_lower {letters folded : Text} (same : Text.lower letters = folded)
    (absent : '.' ∉ folded)
    : letters.count '.' = 0 := by
  refine List.count_eq_zero.mpr fun member => absent ?_
  rw [← same]
  exact List.mem_map.mpr ⟨'.', member, by decide⟩

theorem WritesSign.count_point {negative : Bool} {sign : Text} (signed : WritesSign negative sign)
    : sign.count '.' = 0 := by
  cases signed <;> rfl

theorem WritesWidth.count_point {width : Option Width} {letters : Text}
    (typed : WritesWidth width letters)
    : letters.count '.' = 0 := by
  cases typed with
  | absent => rfl
  | @present width _ named =>
      refine count_point_of_lower rfl fun member => ?_
      cases width with
      | integer type => cases type <;> simp [Width.letters?] at named <;> simp [← named] at member
      | bigint => simp [← Option.some.inj named] at member
      | decimal => simp [← Option.some.inj named] at member
      | unknown letters => cases named

theorem WritesMultiplier.count_point {multiplier : Option Multiplier} {scale : Text}
    (scaled : WritesMultiplier multiplier scale)
    : scale.count '.' = 0 := by
  cases scaled with
  | absent => rfl
  | @present multiplier _ named =>
      refine count_point_of_lower named ?_
      cases multiplier <;> decide

theorem WritesMagnitude.count_point_le {magnitude : Magnitude} {unsigned : Text}
    (sized : WritesMagnitude magnitude unsigned)
    : unsigned.count '.' ≤ 1 := by
  cases sized with
  | @hex x digits letter hexadecimal _ =>
      have noPoint : digits.count '.' = 0 :=
        List.count_eq_zero.mpr fun member => absurd (hexadecimal '.' member) (by decide)
      have notPoint : x ≠ '.' := by
        rintro rfl
        exact absurd letter (by decide)
      simp [noPoint, notPoint]
  | @decimal whole pointed power fraction exponent decimal fractional powered _ =>
      have fractionPoints : pointed.count '.' ≤ 1 := by
        cases fractional with
        | absent => simp
        | present afterPoint => simp [count_point_of_digits afterPoint]
      have powerPoints : power.count '.' = 0 := by
        cases powered with
        | absent => rfl
        | @present e _ sign digits letter signed afterSign _ =>
            have notPoint : e ≠ '.' := by
              rintro rfl
              exact absurd letter (by decide)
            simp [notPoint, signed.count_point, count_point_of_digits afterSign]
      rw [List.count_append, List.count_append, count_point_of_digits decimal, powerPoints]
      omega

/-- Every literal has at most one point. -/
theorem Writes.count_point_le {l : Literal} {t : Text} (writes : Writes l t)
    : t.count '.' ≤ 1 := by
  cases writes with
  | parts signed sized typed scaled _ =>
      have bound := sized.count_point_le
      simp only [List.count_append, signed.count_point, typed.count_point, scaled.count_point]
      omega

-----------------------------------------------------------------------------------------
-- Positional literals as texts
-----------------------------------------------------------------------------------------

theorem writesSign_withSign (negative : Bool) : WritesSign negative (withSign negative []) := by
  cases negative <;> constructor

theorem withSign_eq_append (negative : Bool) (t : Text)
    : withSign negative t = withSign negative [] ++ t := by
  cases negative <;> rfl

namespace PositionalDigits

variable {whole : Text} {fraction : Option Text} (digits : PositionalDigits whole fraction)
  (negative : Bool)
include digits

theorem mem {c : Char} (member : c ∈ withSign negative (whole ++ pointed fraction))
    : c.isDigit = true ∨ c = '-' ∨ c = '.' := by
  have unsigned (inDigits : c ∈ whole ++ pointed fraction) : c.isDigit = true ∨ c = '.' := by
    rcases List.mem_append.mp inDigits with inWhole | inFraction
    · exact .inl (digits.decimal c inWhole)
    · cases fraction with
      | none => cases inFraction
      | some after =>
          rcases List.mem_cons.mp inFraction with isPoint | inAfter
          · exact .inr isPoint
          · exact .inl (digits.fractional after rfl c inAfter)
  cases negative with
  | false => exact (unsigned member).imp_right .inr
  | true =>
      rcases List.mem_cons.mp member with isMinus | inDigits
      · exact .inr (.inl isMinus)
      · exact (unsigned inDigits).imp_right .inr

theorem count_point
    : (withSign negative (whole ++ pointed fraction)).count '.'
      = if fraction.isSome then 1 else 0 := by
  have unsigned : (whole ++ pointed fraction).count '.' = if fraction.isSome then 1 else 0 := by
    rw [List.count_append, count_point_of_digits digits.decimal]
    cases fraction with
    | none => rfl
    | some after => simp [pointed, count_point_of_digits (digits.fractional after rfl)]
  cases negative with
  | false => exact unsigned
  | true => simpa [withSign] using unsigned

theorem writes : Writes (positional negative whole fraction)
    (withSign negative (whole ++ pointed fraction)) := by
  have fractional : WritesFraction fraction (pointed fraction) := by
    cases fraction with
    | none => exact .absent
    | some after => exact .present (digits.fractional after rfl)
  have sized : WritesMagnitude (.decimal whole fraction none)
      (whole ++ (pointed fraction ++ [])) :=
    .decimal digits.decimal fractional .absent (by simp [digits.nonempty])
  rw [withSign_eq_append]
  simpa [positional] using Writes.parts (writesSign_withSign negative) sized .absent .absent nofun

/-- The digits on both sides of the point are those of an integer. -/
theorem merged : PositionalDigits (whole ++ fraction.getD []) none := by
  refine ⟨fun c member => ?_, by simp [digits.nonempty], nofun⟩
  rcases List.mem_append.mp member with inWhole | inFraction
  · exact digits.decimal c inWhole
  · cases fraction with
    | none => cases inFraction
    | some after => exact digits.fractional after rfl c inFraction

theorem plainLetters : PlainLetters (withSign negative (whole ++ pointed fraction)) := by
  constructor <;> intro member <;> have shape := digits.mem negative member <;> revert shape <;>
    decide

theorem strip_eq : Text.strip (withSign negative (whole ++ pointed fraction))
    = withSign negative (whole ++ pointed fraction) := by
  refine Text.strip_of_forall fun c member => ?_
  rcases digits.mem negative member with digit | rfl | rfl
  · exact Text.not_isBlank_of_isDigit digit
  · decide
  · decide

end PositionalDigits

end Literal

end LiveIni
