import LiveIni.Proofs.Inference.FixedDecimals
import LiveIni.Proofs.Literal.Positional
import LiveIni.Proofs.Number.DecimalContexts

/-!
Inference in decimal contexts. A literal is computed, and fitted into the fixed decimals, by operations
that can signal. None of them does, if the contexts have powers of ten enough for the digits of the
literal, and they come to what the exact computation comes to.
-/

namespace LiveIni

open Number

namespace Literal

/-- The precision for a literal: the digits that it is written with, and room for its multiplier. -/
def precision (l : Literal) (magnitude : Decimal) : Nat :=
  match l.magnitude with
  | .hex _ => Decimal.digitCount magnitude.coefficient + 32
  | .decimal whole fraction _ => max 1 whole.length + (fractionDigits fraction).length + 32

/-- A number multiplied by the multiplier of the literal. -/
def scaleIn (ctx : DecimalContext) (l : Literal) (d : Decimal) : Except DecimalSignal Decimal :=
  match l.multiplier with
  | none => .ok d
  | some multiplier => ctx.multiply d (.ofInt multiplier.factor)

/-- The value of a literal from its magnitude, in a context of that precision. -/
def computeIn (limit : Nat) (l : Literal) (magnitude : Decimal)
    : Except DecimalSignal Decimal := do
  let exact ← DecimalContext.exactly limit magnitude
  let ctx := DecimalContext.widest limit (l.precision magnitude)
  let scaled ← l.scaleIn ctx exact
  if l.negative then ctx.minus scaled else return scaled

/-- The value of a literal in decimal contexts, unless its power of ten is at fault. -/
def toDecimalIn (limit : Nat) (l : Literal)
    : Except ExponentFault (Except DecimalSignal Decimal) :=
  (Magnitude.toDecimal l.magnitude).map (l.computeIn limit)

/-- The powers of ten of the contexts are enough for the digits of the literal and any multiplier. -/
def FitsIn (limit : Nat) (l : Literal) : Prop :=
  2 * l.magnitude.digits.length + 100100 ≤ limit

instance (limit : Nat) (l : Literal) : Decidable (l.FitsIn limit) :=
  inferInstanceAs (Decidable (_ ≤ _))

end Literal

-----------------------------------------------------------------------------------------
-- The size of literals
-----------------------------------------------------------------------------------------

namespace Literal

variable {l : Literal} {m d : Decimal} {limit : Nat}

/-- The decimal of a magnitude is positive, has no more digits than its context has without the room for
the multiplier, and a power of ten in range.
-/
structure SizedBy (l : Literal) (m : Decimal) (digits : Nat) : Prop where
  positive : m.negative = false
  precision : l.precision m = digits + 32
  nonempty : 0 < digits
  few : m.coefficient < tenTo digits
  short : digits ≤ 2 * l.magnitude.digits.length + 2
  low : -(maxExponent + l.magnitude.digits.length + 1 : Int) ≤ m.exponent
  high : m.exponent ≤ maxExponent

theorem length_fractionDigits_le (fraction : Option Text)
    : (fractionDigits fraction).length ≤ (fraction.getD []).length + 1
      ∧ 0 < (fractionDigits fraction).length := by
  match fraction with
  | none => simp [fractionDigits]
  | some [] => simp [fractionDigits]
  | some (d :: rest) => simp [fractionDigits]

theorem isDigit_fractionDigits {fraction : Option Text} {pointed : Text}
    (fractional : WritesFraction fraction pointed)
    : ∀ c ∈ fractionDigits fraction, c.isDigit = true := by
  have zero : ∀ c ∈ ['0'], c.isDigit = true := List.forall_mem_singleton.mpr rfl
  cases fractional with
  | absent => exact zero
  | @present digits decimal =>
      cases digits with
      | nil => exact zero
      | cons d rest => exact decimal

/-- The digits of a magnitude are those of its decimal, and its power of ten is that of the last one. -/
theorem exists_sizedBy {unsigned : Text} (writes : WritesMagnitude l.magnitude unsigned)
    (found : Magnitude.toDecimal l.magnitude = .ok m)
    : ∃ digits, l.SizedBy m digits := by
  obtain ⟨negative, magnitude, width, multiplier⟩ := l
  cases writes with
  | @hex x digits letter hexadecimal nonempty =>
      cases found
      have bound : Text.toNatBase 16 digits < tenTo (2 * digits.length + 2) := by
        have below : Text.positional 16 Text.digitValue digits < 16 ^ digits.length :=
          Text.positional_lt fun c member => (Text.digitValue_bounds (hexadecimal c member)).1
        rw [Text.toNatBase_eq_positional]
        calc Text.positional 16 Text.digitValue digits
            < 16 ^ digits.length := below
          _ ≤ (10 ^ 2) ^ digits.length := Nat.pow_le_pow_left (by decide) _
          _ = tenTo (2 * digits.length) := (Nat.pow_mul ..).symm
          _ ≤ tenTo (2 * digits.length + 2) := tenTo_le_tenTo (Nat.le_add_right ..)
      refine ⟨Decimal.digitCount (Text.toNatBase 16 digits), rfl, rfl,
        Decimal.digitCountUpTo_pos .., Decimal.lt_tenTo_digitCount _,
        Decimal.digitCount_le (by omega) bound, ?_, ?_⟩
      · dsimp only
        omega
      · exact Int.natCast_nonneg _
  | @decimal whole pointed power fraction exponent decimal fractional powered nonempty =>
      obtain ⟨few, some⟩ := length_fractionDigits_le fraction
      have length : (Magnitude.decimal whole fraction exponent).digits.length
          = whole.length + (fraction.getD []).length := List.length_append
      have bound : Text.toNat (whole ++ fractionDigits fraction)
          < tenTo (max 1 whole.length + (fractionDigits fraction).length) := by
        have below := Text.decimalValue_lt
          (List.forall_mem_append.mpr ⟨decimal, isDigit_fractionDigits fractional⟩)
        rw [← Text.toNat_eq_decimalValue, List.length_append] at below
        exact below.trans_le (tenTo_le_tenTo (by omega))
      refine ⟨max 1 whole.length + (fractionDigits fraction).length, ?_⟩
      unfold Magnitude.toDecimal at found
      dsimp only at found
      split at found
      · cases found
      · split at found
        · split at found
          · cases found
            refine ⟨rfl, rfl, by omega, tenTo_pos _, ?_, ?_, ?_⟩
            · rw [length]
              omega
            · dsimp only
              omega
            · exact Int.natCast_nonneg _
          · cases found
        · next near =>
            cases found
            refine ⟨rfl, rfl, by omega, bound, ?_, ?_, ?_⟩
            · rw [length]
              omega
            · rw [length]
              dsimp only
              split <;> omega
            · dsimp only
              split <;> omega

-----------------------------------------------------------------------------------------
-- Computing without signals
-----------------------------------------------------------------------------------------

theorem factor_lt (multiplier : Option Multiplier)
    : (multiplier.map Multiplier.factor).getD 1 < tenTo 16 := by
  match multiplier with
  | none => decide
  | some .kilo => decide
  | some .mega => decide
  | some .giga => decide
  | some .tera => decide
  | some .peta => decide

/-- The multiplier adds no more digits than there is room for. -/
theorem SizedBy.product_bounds {digits : Nat} (sized : l.SizedBy m digits) (fits : l.FitsIn limit)
    (negative : Bool)
    : let product : Decimal :=
        ⟨negative, m.coefficient * (l.multiplier.map Multiplier.factor).getD 1, m.exponent⟩
      product.coefficient < tenTo (digits + 16) ∧ -(limit : Int) ≤ product.exponent
        ∧ product.adjusted < limit := by
  intro product
  have bound : product.coefficient < tenTo (digits + 16) := by
    rw [tenTo_add]
    exact Nat.mul_lt_mul'' sized.few (factor_lt l.multiplier)
  have counted := Decimal.digitCount_le (Nat.add_pos_right _ (by decide)) bound
  have exponent : product.exponent = m.exponent := rfl
  have short := sized.short
  have low := sized.low
  have high := sized.high
  unfold FitsIn at fits
  unfold maxExponent at low high
  refine ⟨bound, ?_, ?_⟩
  · omega
  · rw [Decimal.adjusted]
    omega

/-- The context of a literal has room for the magnitude with its multiplier. -/
theorem SizedBy.hasRoom {digits : Nat} (sized : l.SizedBy m digits) (fits : l.FitsIn limit)
    : (DecimalContext.widest limit (l.precision m)).HasRoom
        ⟨false, m.coefficient * (l.multiplier.map Multiplier.factor).getD 1, m.exponent⟩ := by
  obtain ⟨few, low, high⟩ := sized.product_bounds fits false
  rw [sized.precision]
  constructor
  · exact Nat.add_pos_right _ (by decide)
  · exact few.trans_le (tenTo_le_tenTo (Nat.add_le_add_left (by decide) _))
  · exact low
  · exact high.le

/-- The magnitude itself is within the limits. -/
theorem SizedBy.exactly_eq {digits : Nat} (sized : l.SizedBy m digits) (fits : l.FitsIn limit)
    : DecimalContext.exactly limit m = .ok m := by
  have counted := Decimal.digitCount_le sized.nonempty sized.few
  have short := sized.short
  have low := sized.low
  have high := sized.high
  unfold FitsIn at fits
  unfold maxExponent at low high
  rw [DecimalContext.exactly, if_neg]
  rw [Decimal.adjusted]
  omega

/-- Multiplying signals nothing, and comes to the exact product. -/
theorem SizedBy.scaleIn_eq {digits : Nat} (sized : l.SizedBy m digits) (fits : l.FitsIn limit)
    : l.scaleIn (DecimalContext.widest limit (l.precision m)) m
      = .ok ⟨false, m.coefficient * (l.multiplier.map Multiplier.factor).getD 1, m.exponent⟩ := by
  have rounded := (sized.hasRoom fits).round_eq
  have positive := sized.positive
  unfold scaleIn
  cases multiplied : l.multiplier with
  | none =>
      obtain ⟨negative, coefficient, exponent⟩ := m
      cases positive
      simp
  | some multiplier =>
      rw [multiplied] at rounded
      have unsigned : decide ((multiplier.factor : Int) < 0) = false := decide_eq_false (by omega)
      simpa [DecimalContext.multiply, Decimal.ofInt, positive, unsigned] using rounded

/-- So does changing the sign, which zero does not keep. -/
theorem SizedBy.computeIn_eq {digits : Nat} (sized : l.SizedBy m digits) (fits : l.FitsIn limit)
    : let coefficient := m.coefficient * (l.multiplier.map Multiplier.factor).getD 1
      l.computeIn limit m
        = .ok ⟨l.negative && coefficient != 0, coefficient, m.exponent⟩ := by
  have scaled := sized.scaleIn_eq fits
  have signed := (sized.hasRoom fits).minus_eq
  dsimp only
  generalize m.coefficient * (l.multiplier.map Multiplier.factor).getD 1 = coefficient
    at scaled signed ⊢
  unfold computeIn
  rw [sized.exactly_eq fits]
  simp only [bind, Except.bind, scaled, signed]
  cases l.negative with
  | false => rfl
  | true =>
      by_cases none : coefficient = 0
      · simp [Decimal.isZero, Decimal.abs, none]
      · simp [Decimal.isZero, Decimal.neg, none]

/-- In contexts with powers of ten enough for its digits, a literal has the value that it has exactly, and
nothing is signaled.
-/
theorem toDecimalIn_eq {unsigned : Text} (writes : WritesMagnitude l.magnitude unsigned)
    (fits : l.FitsIn limit)
    : l.toDecimalIn limit = l.toDecimal.map .ok := by
  unfold toDecimalIn toDecimal
  cases found : Magnitude.toDecimal l.magnitude with
  | error fault => rfl
  | ok m =>
      obtain ⟨digits, sized⟩ := exists_sizedBy writes found
      exact congrArg Except.ok (sized.computeIn_eq fits)

/-- The decimal of a literal is within the limits, and zero is positive. -/
theorem bounds_of_toDecimal {unsigned : Text} (writes : WritesMagnitude l.magnitude unsigned)
    (fits : l.FitsIn limit) (found : l.toDecimal = .ok d)
    : (d.coefficient = 0 → d.negative = false) ∧ -(limit : Int) ≤ d.exponent
      ∧ d.adjusted < limit := by
  unfold toDecimal at found
  cases read : Magnitude.toDecimal l.magnitude with
  | error fault =>
      rw [read] at found
      cases found
  | ok m =>
      rw [read] at found
      cases found
      obtain ⟨digits, sized⟩ := exists_sizedBy writes read
      refine ⟨fun zero => ?_, (sized.product_bounds fits _).2⟩
      dsimp only at zero ⊢
      rw [zero]
      exact Bool.and_false _

end Literal

-----------------------------------------------------------------------------------------
-- Fixed decimals
-----------------------------------------------------------------------------------------

namespace Inference

/-- A number of at most 28 places, quantized in the context if it has more. -/
def placeIn (ctx : DecimalContext) (d : Decimal) : Except DecimalSignal Decimal :=
  if d.exponent < -28 then do
    let quantum ← DecimalContext.standard.round ⟨false, 1, -28⟩
    ctx.quantize quantum.exponent d
  else .ok d

/-- The fixed decimal for a value, in a context of 29 digits. -/
def toFixedIn (limit : Nat) (d : Decimal) : Except DecimalSignal (Option Decimal) := do
  if exceedsFixed d then return none
  let ctx := DecimalContext.widest limit 29
  let rounded ← ctx.plus d
  let fixed ← placeIn ctx rounded
  if exceedsFixed fixed || (fixed.isZero && !d.isZero) then return none
  return some fixed

variable {d : Decimal} {limit : Nat}

/-- A value is rounded to 29 digits without a signal, also if it is zero. -/
theorem plus_eq_roundDigits (low : -(limit : Int) ≤ d.exponent) (high : d.adjusted < limit)
    (positive : d.coefficient = 0 → d.negative = false)
    : (DecimalContext.widest limit 29).plus d = .ok (d.roundDigits 29) := by
  have precise : 0 < (DecimalContext.widest limit 29).precision := Nat.zero_lt_succ 28
  by_cases zero : d.coefficient = 0
  · have isZero : d.isZero = true := decide_eq_true zero
    have kept : d.abs = d := by
      rw [Decimal.abs, ← positive zero]
    have few : d.coefficient < tenTo 29 := zero ▸ tenTo_pos 29
    have room : (DecimalContext.widest limit 29).HasRoom d :=
      ⟨precise, few, low, high.le⟩
    rw [DecimalContext.plus, isZero, if_pos rfl, kept, room.round_eq,
      d.roundDigits_eq_self (by decide) few]
  · exact DecimalContext.plus_eq precise zero low high

/-- What is rounded to 29 digits has no more of them up to the 28th place, so that it is quantized
without a signal.
-/
theorem placeIn_eq (d : Decimal) (wide : 28 ≤ limit)
    : placeIn (DecimalContext.widest limit 29) (d.roundDigits 29)
      = .ok ((d.roundDigits 29).roundTo (-28)) := by
  have form := form_of_rounding d
  unfold placeIn
  split
  · next drops =>
      have quantum : DecimalContext.standard.round ⟨false, 1, -28⟩ = .ok ⟨false, 1, -28⟩ := by
        decide
      have place : ((d.roundDigits 29).roundTo (-28)).exponent = -28 := by
        rw [Decimal.roundTo, if_pos drops]
      have counted := Decimal.digitCount_le (by decide) form.2
      rw [quantum]
      refine DecimalContext.quantize_eq drops ⟨Nat.zero_lt_succ 28, form.2, ?_, ?_⟩
      · dsimp only [DecimalContext.widest]
        omega
      · dsimp only [DecimalContext.widest, Decimal.adjusted]
        omega
  · next kept => rw [Decimal.roundTo, if_neg kept]

/-- Fitting a value into the fixed decimals signals nothing. -/
theorem toFixedIn_eq (wide : 28 ≤ limit) (low : -(limit : Int) ≤ d.exponent)
    (high : d.adjusted < limit) (positive : d.coefficient = 0 → d.negative = false)
    : toFixedIn limit d = .ok (toFixed? d) := by
  have rounded := plus_eq_roundDigits low high positive
  have placed := placeIn_eq d wide
  unfold toFixedIn toFixed?
  split
  · rfl
  · simp only [rounded, placed, bind, Except.bind, pure, Except.pure]
    split <;> rfl

end Inference

end LiveIni
