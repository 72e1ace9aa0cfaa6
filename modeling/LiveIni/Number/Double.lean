import LiveIni.Number.Decimal

/-!
Binary floating-point numbers of 64 bits, as exact mathematics. A finite double is a sign, a
significand below `2 ^ 53` and a power of two, so every double is a whole multiple of
`2 ^ -1074`. An operation computes its exact result on those multiples and rounds it once, to
the nearest double, a tie going to the even significand.
-/

namespace LiveIni.Number

/-- The number `± significand * 2 ^ exponent`, an infinity, or no number. Finite doubles are
kept in the one form in which the significand fills 53 bits or the exponent is `-1074`.
-/
inductive Double where
  | finite (negative : Bool) (significand : Nat) (exponent : Int)
  | infinite (negative : Bool)
  | nan
deriving DecidableEq, Repr, Inhabited

namespace Double

/-- Zero of the given sign. -/
def zero (negative : Bool) : Double :=
  finite negative 0 (-1074)

/-- The exponent whose significand for `num / den` has 53 bits before rounding, or `-1074` for
numbers too small for that.
-/
def exponentFor (num den : Nat) : Int :=
  let guess : Int := (Nat.log2 num : Int) - Nat.log2 den
  let exact := if num * twoTo (-guess).toNat < den * twoTo guess.toNat then guess - 1 else guess
  max (-1074) (exact - 52)

/-- The double nearest to `± num / den`, for a positive `den`. -/
def ofRatio (negative : Bool) (num den : Nat) : Double :=
  if num = 0 then zero negative
  else
    let exponent := exponentFor num den
    let significand := divHalfEven (num * twoTo (-exponent).toNat) (den * twoTo exponent.toNat)
    let (significand, exponent) :=
      if significand = twoTo 53 then (twoTo 52, exponent + 1) else (significand, exponent)
    if 971 < exponent then infinite negative else finite negative significand exponent

/-- The double nearest to a decimal. Powers of ten far outside the range of doubles are not
computed.
-/
def ofDecimal (d : Decimal) : Double :=
  if d.isZero ∨ d.adjusted < -400 then zero d.negative
  else if 400 < d.adjusted then infinite d.negative
  else ofRatio d.negative d.ratio.1.natAbs d.ratio.2

/-- The double nearest to an integer, infinite if the integer is too large. -/
def ofInt (n : Int) : Double :=
  ofRatio (n < 0) n.natAbs 1

/-- The unit of which every finite double is a whole multiple is one over this number. -/
def scale : Nat := twoTo 1074

/-- A finite double as a multiple of the unit; zero for the others. -/
def scaled : Double → Int
  | finite negative significand exponent =>
    let magnitude : Int := significand * twoTo (exponent + 1074).toNat
    if negative then -magnitude else magnitude
  | _ => 0

/-- The double nearest to `n / den` units; a zero gets the given sign. -/
def ofScaled (negativeZero : Bool) (n : Int) (den : Nat) : Double :=
  ofRatio (if n = 0 then negativeZero else n < 0) n.natAbs (den * scale)

/-- Whether the sign is negative; NaN counts as positive. -/
def isNegative : Double → Bool
  | finite negative _ _ => negative
  | infinite negative => negative
  | nan => false

def isZero : Double → Bool
  | finite _ significand _ => significand = 0
  | _ => false

def isFinite : Double → Bool
  | finite .. => true
  | _ => false

-----------------------------------------------------------------------------------------
-- Arithmetic
-----------------------------------------------------------------------------------------

def neg : Double → Double
  | finite negative significand exponent => finite (!negative) significand exponent
  | infinite negative => infinite !negative
  | nan => nan

/-- The sum. A sum of zero is negative only if both numbers are. -/
def add : Double → Double → Double
  | nan, _ => nan
  | _, nan => nan
  | infinite m, infinite n => if m = n then infinite m else nan
  | infinite m, _ => infinite m
  | _, infinite n => infinite n
  | x, y => ofScaled (x.isNegative && y.isNegative) (x.scaled + y.scaled) 1

def sub (x y : Double) : Double :=
  add x y.neg

def mul (x y : Double) : Double :=
  let negative := x.isNegative != y.isNegative
  match x, y with
  | nan, _ => nan
  | _, nan => nan
  | infinite _, y => if y.isZero then nan else infinite negative
  | x, infinite _ => if x.isZero then nan else infinite negative
  | x, y => ofScaled negative (x.scaled * y.scaled) scale

/-- The quotient; a number over zero is infinite. -/
def div (x y : Double) : Double :=
  let negative := x.isNegative != y.isNegative
  match x, y with
  | nan, _ => nan
  | _, nan => nan
  | infinite _, infinite _ => nan
  | infinite _, _ => infinite negative
  | _, infinite _ => zero negative
  | x, y =>
    if y.isZero then (if x.isZero then nan else infinite negative)
    else ofRatio negative x.scaled.natAbs y.scaled.natAbs

/-- The exact remainder of the quotient cut towards zero, with the sign of the dividend. -/
def rem : Double → Double → Double
  | nan, _ => nan
  | _, nan => nan
  | infinite _, _ => nan
  | x, infinite _ => x
  | x, y => if y.isZero then nan else ofScaled x.isNegative (Int.tmod x.scaled y.scaled) 1

/-- The largest whole number that is not above. -/
def floor (x : Double) : Double :=
  match x with
  | finite .. => ofScaled x.isNegative (Int.fdiv x.scaled scale * scale) 1
  | _ => x

-----------------------------------------------------------------------------------------
-- Order
-----------------------------------------------------------------------------------------

/-- How two doubles compare, if neither is NaN. The two zeros are equal. -/
def compare? : Double → Double → Option Ordering
  | nan, _ => none
  | _, nan => none
  | infinite m, infinite n => some (Ord.compare n.toNat m.toNat)
  | infinite m, _ => some (if m then .lt else .gt)
  | _, infinite n => some (if n then .gt else .lt)
  | x, y => some (Ord.compare x.scaled y.scaled)

/-- A finite double as a fraction. -/
def ratio (x : Double) : Int × Nat :=
  (x.scaled, scale)

end Double

end LiveIni.Number
