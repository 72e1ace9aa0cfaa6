import LiveIni.Literal
import LiveIni.Proofs.Number.Decimal
import Mathlib.Data.Nat.Digits.Defs

/-!
The exact value of a literal: the sign times the magnitude times the multiplier, as a rational
number. The decimal that a literal comes to has this value, unless its power of ten is out of
range.
-/

namespace LiveIni

open Number

-----------------------------------------------------------------------------------------
-- Digits
-----------------------------------------------------------------------------------------

namespace Text

/-- The number that digits write in a base, with the units last. -/
def positional (base : Nat) (value : Char → Nat) (digits : Text) : Nat :=
  Nat.ofDigits base (digits.reverse.map value)

variable {base : Nat} {value : Char → Nat}

theorem positional_append (s t : Text)
    : positional base value (s ++ t)
      = positional base value s * base ^ t.length + positional base value t := by
  unfold positional
  rw [List.reverse_append, List.map_append, Nat.ofDigits_append, List.length_map,
    List.length_reverse]
  ring

theorem positional_cons (c : Char) (t : Text)
    : positional base value (c :: t) = value c * base ^ t.length + positional base value t := by
  have single : positional base value [c] = value c := Nat.ofDigits_singleton ..
  rw [← List.singleton_append, positional_append, single]

/-- Adding one digit after the other is the sum of the digits by their places, by induction on the
digits from any number to which they are added.
-/
theorem foldl_eq_positional (digits : Text) (n : Nat)
    : digits.foldl (fun n c => n * base + value c) n
      = n * base ^ digits.length + positional base value digits := by
  induction digits generalizing n with
  | nil => simp [positional]
  | cons c rest ih =>
      rw [List.foldl_cons, ih, positional_cons, List.length_cons]
      ring

/-- Digits below the base write less than the power of the base that has one digit more. -/
theorem positional_lt {digits : Text} (below : ∀ c ∈ digits, value c < base)
    : positional base value digits < base ^ digits.length := by
  induction digits with
  | nil => simp [positional]
  | cons c rest ih =>
      have others := ih fun d member => below d (List.mem_cons_of_mem c member)
      have leading := Nat.mul_le_mul_right (base ^ rest.length) (below c List.mem_cons_self)
      rw [Nat.succ_mul] at leading
      rw [positional_cons, List.length_cons, Nat.pow_succ']
      omega

/-- Digits that write zero are all zero, by induction on them. -/
theorem eq_zero_of_positional (some : 0 < base) {digits : Text}
    (zero : positional base value digits = 0)
    : ∀ c ∈ digits, value c = 0 := by
  induction digits with
  | nil => simp
  | cons c rest ih =>
      rw [positional_cons, Nat.add_eq_zero_iff] at zero
      have leading := (Nat.mul_eq_zero.mp zero.1).resolve_right (Nat.pow_pos some).ne'
      exact List.forall_mem_cons.mpr ⟨leading, ih zero.2⟩

/-- The number that decimal digits write. -/
def decimalValue (digits : Text) : Nat :=
  positional 10 (fun c => c.toNat - '0'.toNat) digits

theorem toNat_eq_decimalValue (digits : Text) : toNat digits = decimalValue digits := by
  rw [toNat, foldl_eq_positional, Nat.zero_mul, Nat.zero_add, decimalValue]

theorem toNatBase_eq_positional (digits : Text)
    : toNatBase base digits = positional base digitValue digits := by
  rw [toNatBase, foldl_eq_positional, Nat.zero_mul, Nat.zero_add]

/-- Zeros write zero, by induction on them. -/
theorem decimalValue_of_zeros {digits : Text} (zeros : ∀ c ∈ digits, c = '0')
    : decimalValue digits = 0 := by
  induction digits with
  | nil => rfl
  | cons c rest ih =>
      have others := ih fun c member => zeros c (List.mem_cons_of_mem _ member)
      rw [decimalValue] at others ⊢
      rw [positional_cons, others, zeros c (List.mem_cons_self ..), Nat.sub_self, Nat.zero_mul]

end Text

-----------------------------------------------------------------------------------------
-- The exact value
-----------------------------------------------------------------------------------------

/-- The multiplier is this power of 1024. -/
def Multiplier.power : Multiplier → Nat
  | kilo => 1
  | mega => 2
  | giga => 3
  | tera => 4
  | peta => 5

theorem Multiplier.factor_eq (multiplier : Multiplier)
    : multiplier.factor = 1024 ^ multiplier.power := by
  cases multiplier <;> decide

def WrittenExponent.value (e : WrittenExponent) : Int :=
  if e.negative then -(Text.decimalValue e.digits : Int) else Text.decimalValue e.digits

namespace Magnitude

/-- The power of ten, if one is written. -/
def written? : Magnitude → Option WrittenExponent
  | hex _ => none
  | decimal _ _ exponent => exponent

/-- The power of ten, which is zero if none is written. -/
def exponent (m : Magnitude) : Int :=
  (m.written?.map WrittenExponent.value).getD 0

/-- The digits, without those of the power of ten. -/
def digits : Magnitude → Text
  | hex digits => digits
  | decimal whole fraction _ => whole ++ fraction.getD []

def value : Magnitude → ℚ
  | hex digits => (Text.positional 16 Text.digitValue digits : Nat)
  | decimal whole fraction exponent =>
    let digits := fraction.getD []
    (Text.decimalValue whole + Text.decimalValue digits / 10 ^ digits.length)
      * 10 ^ (decimal whole fraction exponent).exponent

/-- The power of ten is out of range, and there is a digit that it would move. -/
def HasFarExponent (m : Magnitude) : Prop :=
  Literal.maxExponent < m.exponent.natAbs ∧ ∃ c ∈ m.digits, c ≠ '0'

end Magnitude

namespace Literal

/-- The exact value: sign, magnitude and multiplier multiplied. -/
def value (l : Literal) : ℚ :=
  (if l.negative then -1 else 1) * l.magnitude.value
    * 1024 ^ (l.multiplier.map Multiplier.power).getD 0

end Literal

-----------------------------------------------------------------------------------------
-- The decimal of a literal
-----------------------------------------------------------------------------------------

namespace Literal

/-- The zero that an absent fraction counts as changes neither its value nor whether there is a digit
other than zero.
-/
theorem fractionDigits_value (fraction : Option Text)
    : (Text.decimalValue (fractionDigits fraction) : ℚ) / 10 ^ (fractionDigits fraction).length
      = Text.decimalValue (fraction.getD []) / 10 ^ (fraction.getD []).length := by
  have zero : Text.decimalValue ['0'] = 0 := rfl
  have empty : Text.decimalValue [] = 0 := rfl
  match fraction with
  | none => simp [fractionDigits, zero, empty]
  | some [] => simp [fractionDigits, zero, empty]
  | some (d :: rest) => rfl

theorem fractionDigits_zeros (whole : Text) (fraction : Option Text)
    : (whole ++ fractionDigits fraction).all (· = '0') = true
      ↔ ¬∃ c ∈ whole ++ fraction.getD [], c ≠ '0' := by
  match fraction with
  | none => simp [fractionDigits]
  | some [] => simp [fractionDigits]
  | some (d :: rest) => simp only [fractionDigits, Option.getD_some, List.all_eq_true,
      decide_eq_true_eq, not_exists, not_and, not_not]

/-- A decimal of some digits, the last of them after the point, has their value. -/
theorem value_of_digits (whole fraction : Text) (power : Int)
    : (⟨false, Text.toNat (whole ++ fraction), power - fraction.length⟩ : Decimal).value
      = (Text.decimalValue whole + Text.decimalValue fraction / 10 ^ fraction.length)
        * 10 ^ power := by
  have split : Text.decimalValue (whole ++ fraction)
      = Text.decimalValue whole * 10 ^ fraction.length + Text.decimalValue fraction :=
    Text.positional_append ..
  rw [Decimal.value, Text.toNat_eq_decimalValue, split, zpow_sub₀ (by norm_num), zpow_natCast]
  simp only [Decimal.signedCoefficient]
  push_cast
  field_simp

/-- Zeros have no value, whatever their power of ten. -/
theorem value_of_zeros {whole : Text} {fraction : Option Text}
    (exponent : Option WrittenExponent) (zeros : ¬∃ c ∈ whole ++ fraction.getD [], c ≠ '0')
    : (Magnitude.decimal whole fraction exponent).value = 0 := by
  push Not at zeros
  have noWhole := Text.decimalValue_of_zeros fun c member =>
    zeros c (List.mem_append_left _ member)
  have noFraction := Text.decimalValue_of_zeros fun c member =>
    zeros c (List.mem_append_right whole member)
  simp [Magnitude.value, noWhole, noFraction]

theorem exponent_value_eq (e : WrittenExponent)
    : e.value = if e.negative then -(Text.toNat e.digits : Int) else Text.toNat e.digits := by
  rw [Text.toNat_eq_decimalValue]
  rfl

theorem natAbs_exponent_value (e : WrittenExponent)
    : e.value.natAbs = Text.toNat e.digits := by
  rw [exponent_value_eq]
  split <;> simp

/-- The decimal of a magnitude has the same value, unless its power of ten is out of range. -/
theorem magnitude_toDecimal_cases {m : Magnitude}
    (short : ∀ e ∈ m.written?, e.digits.length ≤ Value.maxIntegerDigits)
    : (m.HasFarExponent ∧ Magnitude.toDecimal m = .error .outOfRange)
      ∨ ¬m.HasFarExponent
        ∧ ∃ d, Magnitude.toDecimal m = .ok d ∧ d.negative = false ∧ d.value = m.value := by
  cases m with
  | hex digits =>
      right
      refine ⟨fun far => absurd far.1 (Nat.not_lt_zero _), _, rfl, rfl, ?_⟩
      rw [Decimal.value, Text.toNatBase_eq_positional]
      simp [Decimal.signedCoefficient, Magnitude.value]
  | decimal whole fraction exponent =>
      have power : (Magnitude.decimal whole fraction exponent).exponent
          = (exponent.getD ⟨false, ['0']⟩).value := by
        cases exponent <;> rfl
      have readable : ¬Value.maxIntegerDigits < (exponent.getD ⟨false, ['0']⟩).digits.length := by
        cases exponent with
        | none => decide
        | some e => exact Nat.not_lt.mpr (short e rfl)
      unfold Magnitude.HasFarExponent Magnitude.toDecimal
      dsimp only
      rw [if_neg readable, power, natAbs_exponent_value]
      by_cases far : maxExponent < Text.toNat (exponent.getD ⟨false, ['0']⟩).digits
      · rw [if_pos far]
        -- Out of range, the power of ten matters only to a digit other than zero.
        by_cases nonzero : ∃ c ∈ whole ++ fraction.getD [], c ≠ '0'
        · rw [if_neg fun all => (fractionDigits_zeros whole fraction).mp all nonzero]
          exact .inl ⟨⟨far, nonzero⟩, rfl⟩
        · rw [if_pos ((fractionDigits_zeros whole fraction).mpr nonzero), value_of_zeros _ nonzero]
          refine .inr ⟨fun both => nonzero both.2, _, rfl, rfl, ?_⟩
          simp [Decimal.value, Decimal.signedCoefficient]
      · rw [if_neg far]
        refine .inr ⟨fun both => far both.1, _, rfl, rfl, ?_⟩
        rw [value_of_digits, fractionDigits_value, Magnitude.value, power, exponent_value_eq]

/-- A power of ten of too many digits is not read. -/
theorem magnitude_toDecimal_of_long {m : Magnitude} {e : WrittenExponent} (written : e ∈ m.written?)
    (long : Value.maxIntegerDigits < e.digits.length)
    : Magnitude.toDecimal m = .error (.tooManyDigits e.digits.length) := by
  cases m with
  | hex digits => cases written
  | decimal whole fraction exponent =>
      cases Option.mem_def.mp written
      unfold Magnitude.toDecimal
      dsimp only [Option.getD_some]
      rw [if_pos long]

/-- A decimal with a scaled coefficient and a sign has the value scaled and signed. -/
theorem value_of_scaled {d : Decimal} (positive : d.negative = false) (negative : Bool)
    (factor : Nat)
    : let coefficient := d.coefficient * factor
      (⟨negative && coefficient != 0, coefficient, d.exponent⟩ : Decimal).value
        = (if negative then -1 else 1) * d.value * factor := by
  have signed (n : Nat) : (if (negative && n != 0) = true then -(n : ℤ) else n)
      = (if negative then -1 else 1) * n := by
    cases negative <;> simp
  simp only [Decimal.value, Decimal.signedCoefficient, signed, positive]
  push_cast
  split <;> simp <;> ring

/-- The decimal of a literal has the exact value of the literal, unless the power of ten is out of
range.
-/
theorem toDecimal_cases {l : Literal}
    (short : ∀ e ∈ l.magnitude.written?, e.digits.length ≤ Value.maxIntegerDigits)
    : (l.magnitude.HasFarExponent ∧ l.toDecimal = .error .outOfRange)
      ∨ ¬l.magnitude.HasFarExponent ∧ ∃ d, l.toDecimal = .ok d ∧ d.value = l.value := by
  have factor : ((l.multiplier.map Multiplier.factor).getD 1 : ℚ)
      = 1024 ^ (l.multiplier.map Multiplier.power).getD 0 := by
    cases l.multiplier with
    | none => simp
    | some multiplier => simp [multiplier.factor_eq]
  unfold toDecimal
  rcases magnitude_toDecimal_cases short with ⟨far, fault⟩ | ⟨near, d, found, positive, same⟩
  · rw [fault]
    exact .inl ⟨far, rfl⟩
  · rw [found]
    refine .inr ⟨near, _, rfl, ?_⟩
    rw [value, ← same, ← factor]
    exact value_of_scaled positive l.negative _

/-- The literal has a power of ten of more digits than can be read. -/
def HasLongExponent (l : Literal) : Prop :=
  ∃ e ∈ l.magnitude.written?, Value.maxIntegerDigits < e.digits.length

/-- What may become of a literal: its power of ten cannot be read, or it is out of range, or there is
a decimal of the literal's exact value.
-/
theorem toDecimal_outcome (l : Literal)
    : (l.HasLongExponent ∧ ∃ count, l.toDecimal = .error (.tooManyDigits count))
      ∨ ¬l.HasLongExponent ∧ l.magnitude.HasFarExponent ∧ l.toDecimal = .error .outOfRange
      ∨ ¬l.HasLongExponent ∧ ¬l.magnitude.HasFarExponent
        ∧ ∃ d, l.toDecimal = .ok d ∧ d.value = l.value := by
  by_cases long : l.HasLongExponent
  · obtain ⟨e, written, tooLong⟩ := long
    refine .inl ⟨⟨e, written, tooLong⟩, e.digits.length, ?_⟩
    rw [toDecimal, magnitude_toDecimal_of_long written tooLong]
    rfl
  · have short : ∀ e ∈ l.magnitude.written?, e.digits.length ≤ Value.maxIntegerDigits :=
      fun e written => Nat.not_lt.mp fun tooLong => long ⟨e, written, tooLong⟩
    rcases toDecimal_cases short with ⟨far, fault⟩ | ⟨near, found⟩
    · exact .inr (.inl ⟨long, far, fault⟩)
    · exact .inr (.inr ⟨long, near, found⟩)

/-- The decimal of a literal has its exact value. -/
theorem value_of_toDecimal {l : Literal} {d : Decimal} (found : l.toDecimal = .ok d)
    : d.value = l.value := by
  obtain ⟨_, _, fault⟩ | ⟨_, _, fault⟩ | ⟨_, _, other, decimal, value⟩ := l.toDecimal_outcome
  · rw [found] at fault
    cases fault
  · rw [found] at fault
    cases fault
  · cases found.symm.trans decimal
    exact value

end Literal

end LiveIni
