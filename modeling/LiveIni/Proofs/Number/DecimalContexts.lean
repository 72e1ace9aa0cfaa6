import LiveIni.Number.Decimal.Context
import LiveIni.Proofs.Number.DecimalRounding

/-!
Operations of one number in a decimal context, and when they signal nothing. A context with room for all
digits of a number leaves it as it is.
-/

namespace LiveIni.Number.DecimalContext

/-- A context with the widest range of powers of ten. -/
def widest (limit precision : Nat) : DecimalContext :=
  ⟨precision, limit, -limit⟩

/-- Takes a number over as it is, which must not have more digits or larger powers of ten than any
context.
-/
def exactly (limit : Nat) (d : Decimal) : Except DecimalSignal Decimal :=
  if limit < Decimal.digitCount d.coefficient ∨ limit < d.adjusted ∨ d.exponent < 1 - 2 * limit
  then .error .invalidOperation
  else .ok d

/-- The number in the context. Zero becomes positive. -/
def plus (ctx : DecimalContext) (d : Decimal) : Except DecimalSignal Decimal :=
  ctx.round (if d.isZero then d.abs else d)

/-- The opposite number in the context. Zero becomes positive. -/
def minus (ctx : DecimalContext) (d : Decimal) : Except DecimalSignal Decimal :=
  ctx.round (if d.isZero then d.abs else d.neg)

/-- The product in the context. -/
def multiply (ctx : DecimalContext) (a b : Decimal) : Except DecimalSignal Decimal :=
  ctx.round ⟨a.negative != b.negative, a.coefficient * b.coefficient, a.exponent + b.exponent⟩

/-- The form of the number with the given exponent, rounded or filled up with zeros. -/
def rescale (exponent : Int) (d : Decimal) : Decimal :=
  if d.exponent < exponent then d.roundTo exponent
  else ⟨d.negative, d.coefficientAt exponent, exponent⟩

/-- The form with the given exponent, which the context must have room for. -/
def quantize (ctx : DecimalContext) (exponent : Int) (d : Decimal)
    : Except DecimalSignal Decimal :=
  let scaled := rescale exponent d
  if exponent < ctx.tiniest ∨ ctx.maxAdjusted < exponent
      ∨ ctx.precision < Decimal.digitCount scaled.coefficient ∨ ctx.maxAdjusted < scaled.adjusted
  then .error .invalidOperation
  else .ok scaled

-----------------------------------------------------------------------------------------
-- Room for a number
-----------------------------------------------------------------------------------------

/-- The context has all the digits of the number. -/
structure HasRoom (ctx : DecimalContext) (d : Decimal) : Prop where
  positive : 0 < ctx.precision
  digits : d.coefficient < tenTo ctx.precision
  low : ctx.minAdjusted ≤ d.exponent
  high : d.adjusted ≤ ctx.maxAdjusted

variable {ctx : DecimalContext} {d : Decimal} {limit : Nat}

theorem exponent_le_adjusted (d : Decimal) : d.exponent ≤ d.adjusted := by
  have counted : 0 < Decimal.digitCount d.coefficient := Decimal.digitCountUpTo_pos ..
  rw [Decimal.adjusted]
  omega

/-- A number that the context has room for is not changed by rounding, and nothing is signaled. -/
theorem HasRoom.round_eq (room : ctx.HasRoom d) : ctx.round d = .ok d := by
  have leading := exponent_le_adjusted d
  have positive := room.positive
  have low := room.low
  have high := room.high
  unfold round
  split
  · have kept : min (max d.exponent ctx.tiniest) ctx.maxAdjusted = d.exponent := by
      rw [tiniest]
      omega
    rw [kept]
  · have notSmall : ¬d.adjusted < ctx.minAdjusted := by omega
    dsimp only
    rw [if_neg notSmall, d.roundDigits_eq_self positive room.digits, if_neg (Int.not_lt.mpr high)]

theorem HasRoom.neg (room : ctx.HasRoom d) : ctx.HasRoom d.neg := ⟨room.1, room.2, room.3, room.4⟩

theorem HasRoom.abs (room : ctx.HasRoom d) : ctx.HasRoom d.abs := ⟨room.1, room.2, room.3, room.4⟩

/-- The opposite of a number that the context has room for is exact. -/
theorem HasRoom.minus_eq (room : ctx.HasRoom d)
    : ctx.minus d = .ok (if d.isZero then d.abs else d.neg) := by
  unfold minus
  split
  · exact room.abs.round_eq
  · exact room.neg.round_eq

/-- Dropping digits puts the last one at most one place further up than the digits dropped. -/
theorem exponent_roundDigits_le (d : Decimal) (k : Nat)
    : (d.roundDigits k).exponent
      ≤ d.exponent + (Decimal.digitCount d.coefficient - k : Nat) + 1 := by
  have place (e : Int) : (d.roundTo (d.exponent + e)).exponent ≤ max d.exponent (d.exponent + e) := by
    unfold Decimal.roundTo
    split
    · exact le_max_right ..
    · exact le_max_left ..
  have kept := place (Decimal.digitCount d.coefficient - k : Nat)
  unfold Decimal.roundDigits
  dsimp only
  split
  · dsimp only
    omega
  · omega

/-- Rounding to a number of digits moves the leading one up by at most one place. -/
theorem adjusted_roundDigits_le (d : Decimal) {k : Nat} (positive : 0 < k)
    : (d.roundDigits k).adjusted ≤ d.adjusted + 1 := by
  by_cases long : k < Decimal.digitCount d.coefficient
  · have place := exponent_roundDigits_le d k
    have few := Decimal.digitCount_le positive (d.coefficient_roundDigits_lt k)
    rw [Decimal.adjusted, Decimal.adjusted]
    omega
  · have few := (Decimal.lt_tenTo_digitCount d.coefficient).trans_le
      (tenTo_le_tenTo (Nat.not_lt.mp long))
    rw [d.roundDigits_eq_self positive few]
    omega

/-- A number whose powers of ten are in range is rounded to the digits of the context, and nothing is
signaled.
-/
theorem plus_eq (positive : 0 < ctx.precision) (nonzero : d.coefficient ≠ 0)
    (low : ctx.minAdjusted ≤ d.exponent) (high : d.adjusted < ctx.maxAdjusted)
    : ctx.plus d = .ok (d.roundDigits ctx.precision) := by
  have isZero : d.isZero = false := decide_eq_false nonzero
  have leading := exponent_le_adjusted d
  have moved := adjusted_roundDigits_le d positive
  have notSmall : ¬d.adjusted < ctx.minAdjusted := by omega
  have notLarge : ¬ctx.maxAdjusted < (d.roundDigits ctx.precision).adjusted := by omega
  rw [plus, isZero, if_neg Bool.false_ne_true, round, isZero, if_neg Bool.false_ne_true]
  dsimp only
  rw [if_neg notSmall, if_neg notLarge]

/-- A form that drops digits is quantized without a signal if the context has room for it. -/
theorem quantize_eq {exponent : Int} (drops : d.exponent < exponent)
    (room : ctx.HasRoom (d.roundTo exponent))
    : ctx.quantize exponent d = .ok (d.roundTo exponent) := by
  have same : (d.roundTo exponent).exponent = exponent := by
    rw [Decimal.roundTo, if_pos drops]
  have counted := Decimal.digitCount_le room.positive room.digits
  have leading := exponent_le_adjusted (d.roundTo exponent)
  have positive := room.positive
  have low := room.low
  have high := room.high
  unfold quantize rescale
  dsimp only
  rw [if_pos drops, if_neg]
  rw [tiniest]
  omega

end LiveIni.Number.DecimalContext
