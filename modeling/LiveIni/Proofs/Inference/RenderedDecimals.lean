import LiveIni.Proofs.Inference.FixedDecimals
import LiveIni.Proofs.Inference.Outcome
import LiveIni.Proofs.Literal.Separators

/-!
Fixed decimals are written with a point in every number format. What is written is read as the same
number where the point is the decimal separator, and where there is no point. Elsewhere it stays a text,
unless the point is taken for a group separator and the number comes out a thousand times as large.
-/

namespace LiveIni

open Number
open Number.Decimal (withSign WritesPositional)
open Literal (pointed PositionalDigits)

variable {format : NumberFormat} {t normalized : Text} {d r : Decimal}
  {negative : Bool} {whole : Text} {fraction : Option Text}

/-- The value of a positional literal is found exactly: there is no power of ten to be out of range. -/
theorem Literal.exists_toDecimal_positional (negative : Bool) (whole : Text) (fraction : Option Text)
    : ∃ d, (Literal.positional negative whole fraction).toDecimal = .ok d
        ∧ d.value = (Literal.positional negative whole fraction).value := by
  obtain ⟨⟨_, written, _⟩, _⟩ | ⟨_, ⟨far, _⟩, _⟩ | ⟨_, _, found⟩ :=
    (Literal.positional negative whole fraction).toDecimal_outcome
  · cases written
  · cases far
  · exact found

namespace Inference

/-- What has the value of a fixed decimal is fitted into a number of that value, whether or not the
integers are tried first.
-/
theorem exists_first_candidate {e : Decimal} (fixed : toFixed? d = some r)
    (same : e.value = r.value) (integral : Bool)
    : ∃ v, (candidates integral).findSome? (fit? e) = some v ∧ v.number? = some r.value := by
  obtain ⟨integers, tried, onlyIntegers⟩ : ∃ integers,
      candidates integral = integers ++ [.decimal, .double]
        ∧ ∀ kind ∈ integers, ∃ type, kind = .integer type := by
    cases integral with
    | true => exact ⟨[.integer .int32, .integer .int64], rfl, by simp⟩
    | false => exact ⟨[], rfl, by simp⟩
  rw [tried, List.findSome?_append]
  cases first : integers.findSome? (fit? e) with
  | some v =>
      obtain ⟨kind, member, fits⟩ := List.exists_of_findSome?_eq_some first
      obtain ⟨type, rfl⟩ := onlyIntegers kind member
      obtain ⟨n, value, _, rfl⟩ := fit?_integer_eq_some_iff.mp fits
      exact ⟨_, rfl, congrArg some (value.symm.trans same)⟩
  | none =>
      obtain ⟨s, found, value⟩ := exists_toFixed? fixed same
      refine ⟨.decimal s, ?_, congrArg some value⟩
      simp [fit?, found]

/-- A text that writes a positional literal of the value of a fixed decimal is a number of that value. -/
theorem exists_number_of_positional (fixed : toFixed? d = some r)
    (writes : format.Writes (Literal.positional negative whole fraction) t normalized)
    (plain : 'ſ' ∉ normalized)
    (same : (Literal.positional negative whole fraction).value = r.value)
    : ∃ v, infer format t = .ok (v, none) ∧ v.number? = some r.value := by
  obtain ⟨e, found, value⟩ := Literal.exists_toDecimal_positional negative whole fraction
  obtain ⟨v, first, number⟩ := exists_first_candidate fixed (value.trans same)
    (Literal.positional negative whole fraction).isIntegral
  exact ⟨v, infer_of_writes writes plain found first, number⟩

/-- An integer of a few digits is of type int32. -/
theorem infer_of_short_integer (digits : PositionalDigits whole none) (short : whole.length ≤ 6)
    (writes : format.Writes (Literal.positional negative whole none) t normalized)
    (plain : 'ſ' ∉ normalized)
    : ∃ n : Int, infer format t = .ok (.integer .int32 n, none)
        ∧ n = (Literal.positional negative whole none).value := by
  obtain ⟨e, found, value⟩ := Literal.exists_toDecimal_positional negative whole none
  have bound : Text.decimalValue whole < 10 ^ 6 :=
    (Text.decimalValue_lt digits.decimal).trans_le (Nat.pow_le_pow_right (by decide) short)
  let n : Int := if negative then -(Text.decimalValue whole : Int) else Text.decimalValue whole
  have isInteger : (Literal.positional negative whole none).value = n := by
    rw [Literal.value_positional]
    cases negative <;> simp [n]
  have held : IntegerType.int32.holds n = true := by
    have least : IntegerType.int32.least = -2147483648 := by decide
    have greatest : IntegerType.int32.greatest = 2147483647 := by decide
    rw [IntegerType.holds, least, greatest, Bool.and_eq_true, decide_eq_true_eq, decide_eq_true_eq]
    dsimp only [n]
    split <;> omega
  have fits := fit?_integer_eq_some_iff.mpr ⟨n, value.trans isInteger, held, rfl⟩
  refine ⟨n, infer_of_writes writes plain found ?_, isInteger.symm⟩
  change List.findSome? (fit? e) [.integer .int32, .integer .int64, .decimal, .double] = _
  rw [List.findSome?_cons, fits]

-----------------------------------------------------------------------------------------
-- What stands after the point
-----------------------------------------------------------------------------------------

/-- There is no fraction exactly if the exponent is not negative, and three digits of it at minus three. -/
theorem fraction_of_places (parts : r.WritesPositional whole fraction)
    : (fraction = none ↔ 0 ≤ r.exponent)
      ∧ (fraction.map List.length = some 3 ↔ r.exponent = -3) := by
  have places := parts.places
  rw [← Option.map_eq_none_iff (f := List.length), places]
  split
  · next positive => exact ⟨iff_of_true rfl positive, iff_of_false nofun (by omega)⟩
  · next negative =>
      refine ⟨iff_of_false nofun negative, ?_⟩
      rw [Option.some.injEq]
      omega

end Inference

/-- The point in the text of the decimal is taken for a group separator: three digits stand after it, and
at most three before it.
-/
def NumberFormat.Merges (format : NumberFormat) (r : Decimal) : Prop :=
  format.groupSeparator = ['.'] ∧ r.exponent = -3 ∧ |r.value| < 1000

namespace Inference

/-- A decimal of three places has at most three digits before its point if it is less than a thousand.
Witness: there is just the digit zero before the point, or all the digits but three.
-/
theorem length_whole_le_iff (parts : r.WritesPositional whole fraction) (places : r.exponent = -3)
    : whole.length ≤ 3 ↔ |r.value| < 1000 := by
  obtain ⟨after, rfl, length⟩ := Option.map_eq_some_iff.mp ((fraction_of_places parts).2.mpr places)
  have notWhole : ¬(r.isZero = true ∧ 0 ≤ r.exponent) := by omega
  have size := congrArg List.length parts.text
  rw [Decimal.positional, if_neg notWhole, Literal.withSign_eq_append,
    Literal.withSign_eq_append _ (whole ++ _), List.length_append, List.length_append, pointed,
    Nat.add_left_cancel_iff, places] at size
  have few : (Text.ofNat r.coefficient).length ≤ 6 ↔ r.coefficient < 10 ^ 6 :=
    Nat.length_toDigits_le_iff (by decide) (by decide)
  have value : |r.value| < 1000 ↔ r.coefficient < 10 ^ 6 := by
    have thousandth : (10 : ℚ) ^ (-3 : ℤ) = 1 / 1000 := by norm_num
    have limit : (1000 * 1000 : ℚ) = (10 ^ 6 : ℕ) := by norm_num
    rw [r.abs_value, places, thousandth, mul_one_div, div_lt_iff₀ (by norm_num), limit, Nat.cast_lt]
  rw [value, ← few]
  unfold Decimal.withPoint at size
  split at size
  · simp only [List.length_append, List.length_cons, List.length_replicate, length] at size
    omega
  · split at size
    · omega
    · simp only [List.length_append, List.length_cons, List.length_take, List.length_drop,
        length] at size
      omega

theorem mergesAtPoint_iff (parts : r.WritesPositional whole fraction)
    : format.MergesAtPoint whole fraction ↔ format.Merges r := by
  rw [NumberFormat.MergesAtPoint, NumberFormat.Merges, (fraction_of_places parts).2]
  constructor
  · rintro ⟨point, short, places⟩
    exact ⟨point, places, (length_whole_le_iff parts places).mp short⟩
  · rintro ⟨point, places, small⟩
    exact ⟨point, (length_whole_le_iff parts places).mpr small, places⟩

-----------------------------------------------------------------------------------------
-- Reading what is written
-----------------------------------------------------------------------------------------

theorem length_merged_le (merges : format.MergesAtPoint whole fraction)
    : (whole ++ fraction.getD []).length ≤ 6 := by
  obtain ⟨_, short, three⟩ := merges
  obtain ⟨after, rfl, length⟩ := Option.map_eq_some_iff.mp three
  rw [List.length_append, Option.getD_some]
  omega

/-- Three digits more before the point make a number a thousand times as large. -/
theorem value_merged (merges : format.MergesAtPoint whole fraction)
    : (Literal.positional negative (whole ++ fraction.getD []) none).value
      = 1000 * (Literal.positional negative whole fraction).value := by
  obtain ⟨_, _, three⟩ := merges
  obtain ⟨after, rfl, length⟩ := Option.map_eq_some_iff.mp three
  have places : (10 : ℚ) ^ (-((3 : ℕ) : ℤ)) = 1 / 1000 := by norm_num
  have noPlaces : (10 : ℚ) ^ (-(([] : Text).length : ℤ)) = 1 := by simp
  rw [Literal.value_positional, Literal.value_positional, Option.getD_some, Option.getD_none,
    List.append_nil, length, places, noPlaces]
  ring

/-- What a decimal is read as again: the same number, a thousand times that number, or the text of it. -/
inductive Rereads (format : NumberFormat) (r : Decimal) : TypedValue → Prop
  | same {v : TypedValue} (number : v.number? = some r.value)
      (nonempty : format.decimalSeparator ≠ [])
      (kept : format.decimalSeparator = ['.'] ∨ 0 ≤ r.exponent)
    : Rereads format r v
  | thousandfold {n : Int} (value : n = 1000 * r.value) (nonempty : format.decimalSeparator ≠ [])
      (merges : format.Merges r)
    : Rereads format r (.integer .int32 n)
  | text (foreign : format.decimalSeparator = []
        ∨ format.decimalSeparator ≠ ['.'] ∧ ¬0 ≤ r.exponent ∧ ¬format.Merges r)
    : Rereads format r (.string r.positional)

/-- A fixed decimal that is written and read again has one of the three outcomes.
Witness: what the separators make of its point is what the text writes.
-/
theorem exists_rereads (separated : format.Separated) (fixed : toFixed? d = some r)
    : ∃ v, infer format r.positional = .ok (v, none) ∧ Rereads format r v := by
  obtain ⟨whole, fraction, parts⟩ := r.exists_writesPositional
  have digits := parts.toPositionalDigits
  have plain := (digits.plainLetters r.negative).1
  have noFraction := (fraction_of_places parts).1
  obtain ⟨c, member, digit⟩ := (digits.writes r.negative).exists_digit
  have stays (noLiteral : ∀ l normalized, ¬format.Writes l r.positional normalized)
      : infer format r.positional = .ok (.string r.positional, none) :=
    infer_of_no_literal (parts.text ▸ member) digit noLiteral
  by_cases empty : format.decimalSeparator = []
  · refine ⟨_, stays ?_, .text (.inl empty)⟩
    rw [parts.text]
    exact separated.not_writes_without_separator digits r.negative empty
  · by_cases kept : format.decimalSeparator = ['.'] ∨ fraction = none
    · obtain ⟨v, inferred, number⟩ := exists_number_of_positional fixed
        (separated.writes_positional digits r.negative empty kept) plain parts.value
      rw [← parts.text] at inferred
      exact ⟨v, inferred, .same number empty (kept.imp_right noFraction.mp)⟩
    · rw [not_or] at kept
      by_cases merges : format.MergesAtPoint whole fraction
      · have merged := separated.writes_merged digits r.negative empty merges
        obtain ⟨n, inferred, value⟩ := infer_of_short_integer digits.merged
          (length_merged_le merges) merged (digits.merged.plainLetters r.negative).1
        rw [← parts.text] at inferred
        refine ⟨_, inferred, .thousandfold ?_ empty ((mergesAtPoint_iff parts).mp merges)⟩
        rw [value, ← parts.value, value_merged merges]
      · refine ⟨_, stays ?_, .text (.inr ⟨kept.1, ?_, ?_⟩)⟩
        · rw [parts.text]
          exact separated.not_writes_foreign digits r.negative kept.1
            (Option.isSome_iff_ne_none.mpr kept.2) merges
        · exact fun positive => kept.2 (noFraction.mpr positive)
        · exact fun merged => merges ((mergesAtPoint_iff parts).mpr merged)

/-- The point is not taken for a group separator where it is the decimal separator, or where there is no
point.
-/
theorem not_merges_of_kept (separated : format.Separated)
    (kept : format.decimalSeparator = ['.'] ∨ 0 ≤ r.exponent) : ¬format.Merges r := by
  rintro ⟨grouping, places, _⟩
  rcases kept with point | positive
  · exact separated.distinct (point.trans grouping.symm)
  · omega

end Inference

open Inference

/-- A fixed decimal is written and read again as the same number exactly if the point is the decimal
separator of the number format, or the format has a decimal separator and the decimal has no digits
after the point. Where the point is taken for a group separator it is read as the integer that is a
thousand times as large, which is the same only for zero. Everywhere else it stays a text.
Witness: what the separators make of the point of the text decides.
-/
theorem infer_rendered_decimal {invalid : Option InvalidLiteral} (separated : format.Separated)
    (inferred : infer format t = .ok (.decimal r, invalid))
    : ∃ s v, (TypedValue.decimal r).render? = some s ∧ infer format s = .ok (v, none)
        ∧ (v.number? = some r.value
          ↔ format.decimalSeparator = ['.']
            ∨ format.decimalSeparator ≠ []
              ∧ (0 ≤ r.exponent ∨ format.Merges r ∧ r.coefficient = 0))
        ∧ (format.decimalSeparator ≠ [] → format.Merges r →
          ∃ n : Int, v = .integer .int32 n ∧ n = 1000 * r.value)
        ∧ (v.number? ≠ some r.value → ¬(format.decimalSeparator ≠ [] ∧ format.Merges r) →
          v = .string s) := by
  have fixed : ∃ d, toFixed? d = some r := by
    obtain ⟨_, isTruth⟩ | isText | ⟨d, kind, fits⟩ := infer_cases inferred
    · cases isTruth
    · cases isText
    · exact ⟨d, toFixed?_of_fit? fits⟩
  obtain ⟨d, fixed⟩ := fixed
  obtain ⟨v, reread, rereads⟩ := exists_rereads separated fixed
  refine ⟨r.positional, v, rfl, reread, ?_⟩
  cases rereads with
  | same number nonempty kept =>
      have apart := not_merges_of_kept separated kept
      refine ⟨iff_of_true number ?_, fun _ merges => absurd merges apart,
        fun differs => absurd number differs⟩
      exact kept.imp_right fun positive => ⟨nonempty, .inl positive⟩
  | @thousandfold n value nonempty merges =>
      have zero : (n : ℚ) = r.value ↔ r.coefficient = 0 := by
        rw [value, ← r.value_eq_zero_iff]
        constructor <;> intro same <;> linarith
      refine ⟨⟨fun same => ?_, ?_⟩, fun _ _ => ⟨n, rfl, value⟩,
        fun _ apart => absurd ⟨nonempty, merges⟩ apart⟩
      · exact .inr ⟨nonempty, .inr ⟨merges, zero.mp (Option.some.inj same)⟩⟩
      · rintro (point | ⟨_, positive | ⟨_, isZero⟩⟩)
        · exact absurd merges (not_merges_of_kept separated (.inl point))
        · exact absurd merges (not_merges_of_kept separated (.inr positive))
        · exact congrArg some (zero.mpr isZero)
  | text foreign =>
      refine ⟨iff_of_false nofun ?_,
        fun nonempty merges => absurd merges (foreign.resolve_left nonempty).2.2,
        fun _ _ => rfl⟩
      rintro (point | ⟨nonempty, kept⟩)
      · rcases foreign with empty | ⟨other, _⟩
        · cases point.symm.trans empty
        · exact other point
      · obtain ⟨_, places, apart⟩ := foreign.resolve_left nonempty
        rcases kept with positive | ⟨merges, _⟩
        · exact places positive
        · exact apart merges

/-- With a comma before the fraction and points between the groups, one and a half is written with a
point and then is no number.
-/
theorem infer_rendered_decimal_comma
    : let format : NumberFormat := ⟨[','], ['.']⟩
      format.Separated
        ∧ infer format "1,5".toList = .ok (.decimal ⟨false, 15, -1⟩, none)
        ∧ infer format "1.5".toList = .ok (.string "1.5".toList, none) := by
  intro format
  have apart (c : Char) (other : c.isDigit = false ∧ c ≠ '-' ∧ c ≠ '+') : ApartFromNumbers [c] := by
    intro d member
    cases List.mem_singleton.mp member
    exact other
  have separated : format.Separated :=
    ⟨by decide, apart ',' (by decide), apart '.' (by decide)⟩
  have inferred : infer format "1,5".toList = .ok (.decimal ⟨false, 15, -1⟩, none) := by
    decide +kernel
  obtain ⟨s, v, rendered, reread, same, _, otherwise⟩ := infer_rendered_decimal separated inferred
  cases rendered
  have apart : ¬format.Merges ⟨false, 15, -1⟩ := fun merges => absurd merges.2.1 (by decide)
  have differs : v.number? ≠ some (Decimal.value ⟨false, 15, -1⟩) := by
    rw [ne_eq, same]
    rintro (point | ⟨_, positive | ⟨merges, _⟩⟩)
    · exact absurd point (by decide)
    · exact absurd positive (by decide)
    · exact apart merges
  cases otherwise differs fun both => apart both.2
  exact ⟨separated, inferred, reread⟩

/-- With these separators neither one and a half nor a number of three places is read again as the same
number: the one is a text then, and the other an integer.
-/
theorem infer_changes_rendered_decimals
    : let format : NumberFormat := ⟨[','], ['.']⟩
      infer format "1,5".toList = .ok (.decimal ⟨false, 15, -1⟩, none)
        ∧ (TypedValue.decimal ⟨false, 15, -1⟩).render? = some "1.5".toList
        ∧ infer format "1.5".toList = .ok (.string "1.5".toList, none)
        ∧ infer format "1,234".toList = .ok (.decimal ⟨false, 1234, -3⟩, none)
        ∧ (TypedValue.decimal ⟨false, 1234, -3⟩).render? = some "1.234".toList
        ∧ infer format "1.234".toList = .ok (.integer .int32 1234, none) := by
  decide +kernel

end LiveIni
