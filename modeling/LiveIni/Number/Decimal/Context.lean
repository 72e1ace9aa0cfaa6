import LiveIni.Number.Decimal.Notation

/-!
Arithmetic on decimals with a bounded number of digits. Every operation computes its exact
result and rounds it once, to the nearest form that the context can hold, a half going to the
even digit. Besides finite decimals there are infinities and NaNs; an operation that has no
sensible result signals why.
-/

namespace LiveIni.Number

/-- A decimal, an infinity or a NaN. A NaN may carry a number for diagnosis, and a signaling
one is refused by every operation.
-/
inductive ExtendedDecimal where
  | finite (value : Decimal)
  | infinite (negative : Bool)
  | nan (negative signaling : Bool) (payload : Nat)
deriving DecidableEq, Repr, Inhabited

/-- Why an operation on decimals has no result. -/
inductive DecimalSignal where
  | invalidOperation
  | divisionUndefined
  | divisionImpossible
  | divisionByZero
  | overflow
deriving DecidableEq, Repr

namespace ExtendedDecimal

/-- The text of a special value or the given text of a finite one. -/
def render (finiteText : Decimal → Text) : ExtendedDecimal → Text
  | finite d => finiteText d
  | infinite negative => Decimal.withSign negative "Infinity".toList
  | nan negative signaling payload =>
    Decimal.withSign negative <|
      (if signaling then "sNaN".toList else "NaN".toList) ++
        if payload = 0 then [] else Text.ofNat payload

def scientific : ExtendedDecimal → Text :=
  render Decimal.scientific

def positional : ExtendedDecimal → Text :=
  render Decimal.positional

/-- Reads a decimal, an infinity or a NaN; letters may be of either case. -/
def ofNotation? (t : Text) : Option ExtendedDecimal :=
  let (negative, body) := Decimal.readSign t
  let word := Text.lower body
  if word = "inf".toList ∨ word = "infinity".toList then some (infinite negative)
  else match "nan".toList.isPrefixOf? word, "snan".toList.isPrefixOf? word with
    | some payload, _ =>
      if payload.all Char.isDigit then some (nan negative false (Text.toNat payload)) else none
    | none, some payload =>
      if payload.all Char.isDigit then some (nan negative true (Text.toNat payload)) else none
    | none, none => (Decimal.ofNotation? t).map finite

def isZero : ExtendedDecimal → Bool
  | finite d => d.isZero
  | _ => false

def neg : ExtendedDecimal → ExtendedDecimal
  | finite d => finite d.neg
  | infinite negative => infinite !negative
  | nan negative signaling payload => nan (!negative) signaling payload

end ExtendedDecimal

/-- How many digits a result may have, and how large and how small it may be. -/
structure DecimalContext where
  precision : Nat
  maxAdjusted : Int
  minAdjusted : Int

namespace DecimalContext

/-- Twenty-eight digits and powers of ten up to `± 999999`. -/
def standard : DecimalContext := ⟨28, 999999, -999999⟩

/-- The exponent of the smallest number above zero. -/
def tiniest (ctx : DecimalContext) : Int :=
  ctx.minAdjusted - (ctx.precision - 1)

/-- The nearest number that the context holds. Numbers too small for the full precision lose
digits at the end; numbers too large are refused.
-/
def round (ctx : DecimalContext) (d : Decimal) : Except DecimalSignal Decimal :=
  if d.isZero then
    .ok { d with exponent := min (max d.exponent ctx.tiniest) ctx.maxAdjusted }
  else
    let rounded :=
      if d.adjusted < ctx.minAdjusted then d.roundTo ctx.tiniest
      else d.roundDigits ctx.precision
    if ctx.maxAdjusted < rounded.adjusted then .error .overflow else .ok rounded

/-- Rounds a finite result. -/
def finish (ctx : DecimalContext) (d : Decimal) : Except DecimalSignal ExtendedDecimal :=
  (ctx.round d).map .finite

/-- The NaN that two operands lead to, the first one counting first, or the refusal of a
signaling one.
-/
def nanOf? (a b : ExtendedDecimal) : Option (Except DecimalSignal ExtendedDecimal) :=
  match a, b with
  | .nan _ true _, _ => some (.error .invalidOperation)
  | _, .nan _ true _ => some (.error .invalidOperation)
  | .nan negative _ payload, _ => some (.ok (.nan negative false payload))
  | _, .nan negative _ payload => some (.ok (.nan negative false payload))
  | _, _ => none

/-- The sum of two finite numbers. A sum of zero is negative only if both numbers are. -/
def addFinite (a b : Decimal) : Decimal :=
  let exponent := min a.exponent b.exponent
  let sign (d : Decimal) : Int := if d.negative then -1 else 1
  let sum := sign a * a.coefficientAt exponent + sign b * b.coefficientAt exponent
  ⟨if sum = 0 then a.negative && b.negative else sum < 0, sum.natAbs, exponent⟩

def add (ctx : DecimalContext) (a b : ExtendedDecimal) : Except DecimalSignal ExtendedDecimal :=
  (nanOf? a b).getD <|
    match a, b with
    | .infinite m, .infinite n => if m = n then .ok a else .error .invalidOperation
    | .infinite _, _ => .ok a
    | _, .infinite _ => .ok b
    | .finite x, .finite y => ctx.finish (addFinite x y)
    | _, _ => .error .invalidOperation

def sub (ctx : DecimalContext) (a b : ExtendedDecimal) : Except DecimalSignal ExtendedDecimal :=
  (nanOf? a b).getD (ctx.add a b.neg)

def mul (ctx : DecimalContext) (a b : ExtendedDecimal) : Except DecimalSignal ExtendedDecimal :=
  (nanOf? a b).getD <|
    match a, b with
    | .infinite m, .infinite n => .ok (.infinite (m != n))
    | .infinite m, .finite y =>
      if y.isZero then .error .invalidOperation else .ok (.infinite (m != y.negative))
    | .finite x, .infinite n =>
      if x.isZero then .error .invalidOperation else .ok (.infinite (x.negative != n))
    | .finite x, .finite y =>
      ctx.finish
        ⟨x.negative != y.negative, x.coefficient * y.coefficient, x.exponent + y.exponent⟩
    | _, _ => .error .invalidOperation

/-- Drops zeros at the end of the coefficient while the exponent is below `ideal`. -/
def reduceTowards (ideal : Int) : Nat → Decimal → Decimal
  | 0, d => d
  | fuel + 1, d =>
    if d.exponent < ideal ∧ d.coefficient % 10 = 0 then
      reduceTowards ideal fuel { d with coefficient := d.coefficient / 10, exponent := d.exponent + 1 }
    else d

/-- The quotient of two finite numbers, the second one not zero, with at least one digit more
than the precision. If it does not end there, its last digit is made to show on which side of
a half the rest lies.
-/
def divFinite (ctx : DecimalContext) (a b : Decimal) : Decimal :=
  let negative := a.negative != b.negative
  let ideal := a.exponent - b.exponent
  if a.isZero then ⟨negative, 0, ideal⟩
  else
    let shift : Int :=
      Decimal.digitCount b.coefficient - Decimal.digitCount a.coefficient + ctx.precision + 1
    let num := a.coefficient * tenTo shift.toNat
    let den := b.coefficient * tenTo (-shift).toNat
    let quotient := num / den
    if num % den = 0 then
      reduceTowards ideal shift.toNat ⟨negative, quotient, ideal - shift⟩
    else
      ⟨negative, if quotient % 5 = 0 then quotient + 1 else quotient, ideal - shift⟩

def div (ctx : DecimalContext) (a b : ExtendedDecimal) : Except DecimalSignal ExtendedDecimal :=
  (nanOf? a b).getD <|
    match a, b with
    | .infinite _, .infinite _ => .error .invalidOperation
    | .infinite m, .finite y => .ok (.infinite (m != y.negative))
    | .finite x, .infinite n => .ok (.finite ⟨x.negative != n, 0, ctx.tiniest⟩)
    | .finite x, .finite y =>
      if y.isZero then
        .error (if x.isZero then .divisionUndefined else .divisionByZero)
      else ctx.finish (ctx.divFinite x y)
    | _, _ => .error .invalidOperation

/-- The whole quotient of two finite numbers, the second one not zero, and what remains. The
quotient is cut towards zero and must fit the precision; the rest has the sign of the first.
-/
def divideWhole (ctx : DecimalContext) (a b : Decimal)
    : Except DecimalSignal (Decimal × Decimal) :=
  let negative := a.negative != b.negative
  let exponent := min a.exponent b.exponent
  if a.isZero ∨ a.adjusted - b.adjusted ≤ -2 then
    .ok (⟨negative, 0, 0⟩, ⟨a.negative, a.coefficientAt exponent, exponent⟩)
  else if (ctx.precision : Int) < a.adjusted - b.adjusted then
    .error .divisionImpossible
  else
    let num := a.coefficientAt exponent
    let den := b.coefficientAt exponent
    if tenTo ctx.precision ≤ num / den then .error .divisionImpossible
    else .ok (⟨negative, num / den, 0⟩, ⟨a.negative, num % den, exponent⟩)

/-- The whole part of the quotient. -/
def divWhole (ctx : DecimalContext) (a b : ExtendedDecimal)
    : Except DecimalSignal ExtendedDecimal :=
  (nanOf? a b).getD <|
    match a, b with
    | .infinite _, .infinite _ => .error .invalidOperation
    | .infinite m, .finite y => .ok (.infinite (m != y.negative))
    | .finite x, .infinite n => .ok (.finite ⟨x.negative != n, 0, 0⟩)
    | .finite x, .finite y =>
      if y.isZero then
        .error (if x.isZero then .divisionUndefined else .divisionByZero)
      else (ctx.divideWhole x y).map fun (quotient, _) => .finite quotient
    | _, _ => .error .invalidOperation

/-- The remainder of the whole quotient. -/
def rem (ctx : DecimalContext) (a b : ExtendedDecimal) : Except DecimalSignal ExtendedDecimal :=
  (nanOf? a b).getD <|
    match a, b with
    | .infinite _, _ => .error .invalidOperation
    | .finite x, .infinite _ => ctx.finish x
    | .finite x, .finite y =>
      if y.isZero then
        .error (if x.isZero then .divisionUndefined else .invalidOperation)
      else do
        let (_, rest) ← ctx.divideWhole x y
        ctx.finish rest
    | _, _ => .error .invalidOperation

end DecimalContext

end LiveIni.Number
