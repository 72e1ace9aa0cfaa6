import LiveIni.Proofs.Inference.Outcome
import LiveIni.Proofs.Inference.RenderedValues
import LiveIni.Proofs.Inference.Signals

/-!
Typed values respect their kinds, whatever text and number format they come from. The bounds of each kind
hold of what is stored, after all rounding, and nothing on the way to it signals an error.
-/

namespace LiveIni

open Number
open Inference (fixedBound toFixedIn)

/-- What the kind of a typed value says of the value, and of the text that it was inferred from. -/
inductive TypedValue.RespectsKind (format : NumberFormat) (t : Text) : TypedValue → Prop
  | string : RespectsKind format t (.string t)
  | boolean {b : Bool} : RespectsKind format t (.boolean b)
  | integer {type : IntegerType} {n : Int} (least : type.least ≤ n) (greatest : n ≤ type.greatest)
    : RespectsKind format t (.integer type n)
  | bigint {n : Int} (short : n.natAbs < tenTo 4301) : RespectsKind format t (.bigint n)
  | decimal {r : Decimal} {l : Literal} {normalized : Text} (writes : format.Writes l t normalized)
      (bounded : |r.value| ≤ 2 ^ 96 - 1) (digits : r.coefficient < tenTo 29)
      (places : -28 ≤ r.exponent) (zero : r.value = 0 → ∀ c ∈ l.magnitude.digits, c = '0')
    : RespectsKind format t (.decimal r)
  | double {x : Double} (finite : x.isFinite = true) : RespectsKind format t (.double x)

/-- A magnitude is zero only if all its digits are. -/
theorem Magnitude.eq_zero_of_value {magnitude : Magnitude} {unsigned : Text}
    (writes : Literal.WritesMagnitude magnitude unsigned) (zero : magnitude.value = 0)
    : ∀ c ∈ magnitude.digits, c = '0' := by
  cases writes with
  | @hex x digits letter hexadecimal nonempty =>
      have none : Text.positional 16 Text.digitValue digits = 0 := Nat.cast_eq_zero.mp zero
      intro c member
      exact (Text.digitValue_bounds (hexadecimal c member)).2
        (Text.eq_zero_of_positional (by decide) none c member)
  | @decimal whole pointed power fraction exponent decimal fractional powered nonempty =>
      have unit : (10 : ℚ) ^ (Magnitude.decimal whole fraction exponent).exponent ≠ 0 :=
        (unit_pos _).ne'
      have sum := (mul_eq_zero.mp zero).resolve_right unit
      rw [add_eq_zero_iff_of_nonneg (by positivity) (by positivity)] at sum
      have noWhole : Text.decimalValue whole = 0 := Nat.cast_eq_zero.mp sum.1
      have noFraction : Text.decimalValue (fraction.getD []) = 0 :=
        Nat.cast_eq_zero.mp ((div_eq_zero_iff.mp sum.2).resolve_right (by positivity))
      have zeros {digits : Text} (decimal : ∀ c ∈ digits, c.isDigit = true)
          (none : Text.decimalValue digits = 0) : ∀ c ∈ digits, c = '0' := fun c member =>
        (Text.digit_bounds (decimal c member)).2
          (Text.eq_zero_of_positional (by decide) none c member)
      have isDecimal : ∀ c ∈ fraction.getD [], c.isDigit = true := by
        cases fractional with
        | absent => exact fun c member => absurd member List.not_mem_nil
        | present decimal => exact decimal
      exact List.forall_mem_append.mpr ⟨zeros decimal noWhole, zeros isDecimal noFraction⟩

namespace Literal

/-- The value of a literal is zero only if its magnitude is. -/
theorem magnitude_value_of_value {l : Literal} (zero : l.value = 0) : l.magnitude.value = 0 := by
  have scale : (1024 : ℚ) ^ (l.multiplier.map Multiplier.power).getD 0 ≠ 0 := by positivity
  have sign : (if l.negative then -1 else 1 : ℚ) ≠ 0 := by split <;> norm_num
  exact (mul_eq_zero.mp ((mul_eq_zero.mp zero).resolve_right scale)).resolve_left sign

theorem Writes.exists_writesMagnitude {l : Literal} {t : Text} (writes : Writes l t)
    : ∃ unsigned, WritesMagnitude l.magnitude unsigned := by
  cases writes with
  | parts _ sized _ _ _ => exact ⟨_, sized⟩

end Literal

namespace Inference

variable {format : NumberFormat} {t : Text}

/-- What a literal is fitted into respects its kind, since the bounds are checked after the rounding. -/
theorem respectsKind_of_fit? {l : Literal} {normalized : Text} {d : Decimal} {kind : NumberKind}
    {v : TypedValue} (writes : format.Writes l t normalized) (found : l.toDecimal = .ok d)
    (fits : fit? d kind = some v)
    : v.RespectsKind format t := by
  cases kind with
  | integer type =>
      obtain ⟨n, _, held, rfl⟩ := fit?_integer_eq_some_iff.mp fits
      rw [IntegerType.holds, Bool.and_eq_true, decide_eq_true_eq, decide_eq_true_eq] at held
      exact .integer held.1 held.2
  | bigint =>
      obtain ⟨n, _, short, rfl⟩ := fit?_bigint_eq_some_iff.mp fits
      exact .bigint short
  | decimal =>
      obtain ⟨r, fixed, rfl⟩ := Option.map_eq_some_iff.mp fits
      obtain ⟨places, digits⟩ := form_of_toFixed? fixed
      obtain ⟨unsigned, sized⟩ := writes.plain.exists_writesMagnitude
      refine .decimal writes (isFixed_of_toFixed? fixed).bounded digits places fun zero => ?_
      have none := (toFixed?_eq_some_iff.mp fixed).2.2.1 (r.value_eq_zero_iff.mp zero)
      rw [← d.value_eq_zero_iff, Literal.value_of_toDecimal found] at none
      exact Magnitude.eq_zero_of_value sized (Literal.magnitude_value_of_value none)
  | double =>
      obtain ⟨x, found, rfl⟩ := Option.map_eq_some_iff.mp fits
      unfold toDouble? at found
      dsimp only at found
      split at found
      · next kept =>
          cases found
          exact .double (Bool.and_eq_true_iff.mp kept).1
      · cases found

end Inference

open Inference

/-- What a text is inferred to be respects its kind. In contexts with powers of ten enough for its digits
the literal that the text writes is computed and fitted into the fixed decimals without a signal.
Witness: the bounds are checked once more after the rounding, and quantizing has room for all digits.
-/
theorem infer_respects_kind {format : NumberFormat} {t : Text} {v : TypedValue}
    {invalid : Option InvalidLiteral} (inferred : infer format t = .ok (v, invalid))
    : v.RespectsKind format t
      ∧ ∀ {l normalized limit}, format.Writes l t normalized → l.FitsIn limit →
        l.toDecimalIn limit = l.toDecimal.map .ok
          ∧ ∀ d, l.toDecimal = .ok d → toFixedIn limit d = .ok (toFixed? d) := by
  constructor
  · have outcome := infer_outcome format t
    rw [inferred] at outcome
    cases outcome with
    | truth _ _ => exact .boolean
    | text _ _ => exact .string
    | literal writes outcome =>
        cases outcome with
        | number found _ first =>
            obtain ⟨kind, _, fits⟩ := List.exists_of_findSome?_eq_some first
            exact respectsKind_of_fit? writes found fits
        | unfit _ _ _ => exact .string
        | farExponent _ _ => exact .string
  · intro l normalized limit writes fits
    obtain ⟨unsigned, sized⟩ := writes.plain.exists_writesMagnitude
    refine ⟨Literal.toDecimalIn_eq sized fits, fun d found => ?_⟩
    obtain ⟨positive, low, high⟩ := Literal.bounds_of_toDecimal sized fits found
    have wide : 28 ≤ limit := by
      unfold Literal.FitsIn at fits
      omega
    exact toFixedIn_eq wide low high positive

/-- A literal of 29 places is quantized to a decimal of 28 places, and its value is kept off zero. -/
theorem infer_respects_kind_negativeTie
    : let t := "-1.5e-28".toList
      let fixed : Decimal := ⟨true, 2, -28⟩
      let limit := 999999999999999999
      infer .invariant t = .ok (.decimal fixed, none)
        ∧ TypedValue.RespectsKind .invariant t (.decimal fixed)
        ∧ negativeTie.toDecimalIn limit = .ok (.ok ⟨true, 15, -29⟩)
        ∧ toFixedIn limit ⟨true, 15, -29⟩ = .ok (some fixed) := by
  intro t fixed limit
  have inferred : infer .invariant t = .ok (.decimal fixed, none) := by decide +kernel
  have found : negativeTie.toDecimal = .ok ⟨true, 15, -29⟩ := by decide +kernel
  have kept : toFixed? ⟨true, 15, -29⟩ = some fixed := by decide +kernel
  have writes : NumberFormat.invariant.Writes negativeTie t t :=
    ⟨by decide +kernel, (Literal.read?_eq_some_iff (by constructor <;> decide)).mp (by decide)⟩
  have fits : negativeTie.FitsIn limit := by decide
  obtain ⟨respects, signals⟩ := infer_respects_kind inferred
  obtain ⟨computed, fitted⟩ := signals writes fits
  rw [found] at computed
  rw [fitted _ found, kept]
  exact ⟨inferred, respects, computed, rfl⟩

end LiveIni
