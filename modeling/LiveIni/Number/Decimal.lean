import LiveIni.Number.Power
import LiveIni.Number.Rounding
import LiveIni.Text

/-!
Decimal numbers as a sign, a coefficient and a power of ten. The same number has many forms
(`1.5`, `1.50`, `15E-1`), and the form is kept, because it decides how the number is written.
Two texts are defined here: the positional one, which never uses an exponent, and the
scientific one, which uses an exponent for large powers and for very small numbers.
-/

namespace LiveIni.Number

/-- The number `± coefficient * 10 ^ exponent`. Zero has a sign and an exponent, too. -/
structure Decimal where
  negative : Bool
  coefficient : Nat
  exponent : Int
deriving DecidableEq, Repr, Inhabited

namespace Decimal

/-- The number of decimal digits of `n`, at least one, if there are at most `2 ^ k` of them. -/
def digitCountUpTo : (k n : Nat) → Nat
  | 0, _ => 1
  | k + 1, n =>
    let half := twoTo k
    if n < tenTo half then digitCountUpTo k n
    else half + digitCountUpTo k (n / tenTo half)

/-- The number of decimal digits of `n`, which is one for zero. It is found by halving, because
`n` may be as large as any power of ten that a decimal has.
-/
def digitCount (n : Nat) : Nat :=
  digitCountUpTo (Nat.log2 (Nat.log2 n + 1) + 1) n

/-- Every number has a digit. -/
theorem digitCountUpTo_pos (k n : Nat) : 0 < digitCountUpTo k n := by
  induction k generalizing n with
  | zero => exact Nat.one_pos
  | succ k ih =>
    unfold digitCountUpTo
    dsimp only
    split
    · exact ih n
    · exact Nat.add_pos_right _ (ih _)

/-- A number of at most `2 ^ k` digits lies below the power of ten for their count. -/
theorem lt_tenTo_digitCountUpTo {k n : Nat}
    (h : n < tenTo (twoTo k))
    : n < tenTo (digitCountUpTo k n) := by
  induction k generalizing n with
  | zero => exact h
  | succ k ih =>
    unfold digitCountUpTo
    dsimp only
    split
    next small => exact ih small
    next large =>
      rw [twoTo_succ, Nat.mul_two, tenTo_add] at h
      have upper := ih (Nat.div_lt_of_lt_mul h)
      rw [tenTo_add, Nat.mul_comm]
      exact (Nat.div_lt_iff_lt_mul (tenTo_pos _)).1 upper

/-- A number above zero reaches the power of ten of its leading digit. -/
theorem tenTo_le_of_digitCountUpTo {k n : Nat}
    (h : 0 < n)
    : tenTo (digitCountUpTo k n - 1) ≤ n := by
  induction k generalizing n with
  | zero => exact h
  | succ k ih =>
    unfold digitCountUpTo
    dsimp only
    split
    next => exact ih h
    next large =>
      have lower := ih (Nat.div_pos (Nat.le_of_not_lt large) (tenTo_pos _))
      rw [Nat.add_sub_assoc (digitCountUpTo_pos ..), tenTo_add, Nat.mul_comm]
      exact (Nat.le_div_iff_mul_le (tenTo_pos _)).1 lower

/-- A number has no more digits than are counted. -/
theorem lt_tenTo_digitCount (n : Nat) : n < tenTo (digitCount n) := by
  apply lt_tenTo_digitCountUpTo
  have bits : n < tenTo (Nat.log2 n + 1) :=
    Nat.lt_of_lt_of_le (lt_twoTo_log2 n) (twoTo_le_tenTo _)
  exact Nat.lt_of_lt_of_le bits (tenTo_le_tenTo (Nat.le_of_lt (lt_twoTo_log2 _)))

/-- A number above zero has as many digits as are counted. -/
theorem tenTo_le_of_digitCount {n : Nat}
    (h : 0 < n)
    : tenTo (digitCount n - 1) ≤ n :=
  tenTo_le_of_digitCountUpTo h

def isZero (d : Decimal) : Bool :=
  d.coefficient = 0

/-- The coefficient with the sign of the number. -/
def signedCoefficient (d : Decimal) : Int :=
  if d.negative then -(d.coefficient : Int) else d.coefficient

/-- The power of ten of the leading digit. -/
def adjusted (d : Decimal) : Int :=
  d.exponent + digitCount d.coefficient - 1

/-- An integer as a decimal with exponent zero. -/
def ofInt (n : Int) : Decimal :=
  ⟨n < 0, n.natAbs, 0⟩

/-- The number as a fraction whose denominator is a power of ten. -/
def ratio (d : Decimal) : Int × Nat :=
  (d.signedCoefficient * tenTo d.exponent.toNat, tenTo (-d.exponent).toNat)

/-- The coefficient that the number would have with the given exponent, if that exponent is
not above the number's own: no digit is lost.
-/
def coefficientAt (exponent : Int) (d : Decimal) : Nat :=
  d.coefficient * tenTo (d.exponent - exponent).toNat

/-- How two numbers compare, whatever their forms. -/
def compare (a b : Decimal) : Ordering :=
  let exponent := min a.exponent b.exponent
  let sign (d : Decimal) : Int := if d.negative then -1 else 1
  Ord.compare (sign a * coefficientAt exponent a) (sign b * coefficientAt exponent b)

/-- The integer that the number equals, if it equals one. -/
def toInt? (d : Decimal) : Option Int :=
  let (num, den) := d.ratio
  if num % (den : Int) = 0 then some (num / (den : Int)) else none

def abs (d : Decimal) : Decimal :=
  { d with negative := false }

def neg (d : Decimal) : Decimal :=
  { d with negative := !d.negative }

/-- The form with a larger exponent that is nearest to the number, a half going to the even
coefficient. A number that already has that exponent or a larger one keeps its form.
-/
def roundTo (exponent : Int) (d : Decimal) : Decimal :=
  if d.exponent < exponent then
    { d with
      coefficient := divHalfEven d.coefficient (tenTo (exponent - d.exponent).toNat)
      exponent := exponent }
  else d

/-- The nearest form of at most `digits` digits, a half going to the even coefficient.
Rounding up to a power of ten drops the digit that it adds.
-/
def roundDigits (digits : Nat) (d : Decimal) : Decimal :=
  let excess := digitCount d.coefficient - digits
  let rounded := roundTo (d.exponent + excess) d
  if digits < digitCount rounded.coefficient then
    { rounded with coefficient := rounded.coefficient / 10, exponent := rounded.exponent + 1 }
  else rounded

-----------------------------------------------------------------------------------------
-- Texts
-----------------------------------------------------------------------------------------

/-- Digits with a point after the first `place` of them. Zeros fill up on either side, and a
point at the very end is left out.
-/
def withPoint (digits : Text) (place : Int) : Text :=
  if place ≤ 0 then
    '0' :: '.' :: List.replicate (-place).toNat '0' ++ digits
  else if (digits.length : Int) ≤ place then
    digits ++ List.replicate (place.toNat - digits.length) '0'
  else
    digits.take place.toNat ++ '.' :: digits.drop place.toNat

/-- A text with `-` in front if the number is negative. -/
def withSign (negative : Bool) (t : Text) : Text :=
  if negative then '-' :: t else t

/-- The positional text: a zero without fraction digits is `0`, whatever its exponent. -/
def positional (d : Decimal) : Text :=
  let digits := Text.ofNat d.coefficient
  withSign d.negative <|
    if d.isZero ∧ 0 ≤ d.exponent then ['0']
    else withPoint digits (d.exponent + digits.length)

/-- The scientific text: positional for an exponent of at most zero and a leading digit no
further down than the sixth fraction digit, else one digit before the point and a signed
power of ten after `E`.
-/
def scientific (d : Decimal) : Text :=
  let digits := Text.ofNat d.coefficient
  let place := d.exponent + digits.length
  withSign d.negative <|
    if d.exponent ≤ 0 ∧ -6 < place then withPoint digits place
    else
      withPoint digits 1 ++
        'E' :: (if 0 ≤ place - 1 then '+' :: Text.ofInt (place - 1) else Text.ofInt (place - 1))

end Decimal

end LiveIni.Number
