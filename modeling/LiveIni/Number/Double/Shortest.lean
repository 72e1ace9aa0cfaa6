import LiveIni.Number.Double
import LiveIni.Number.Decimal.Notation

/-!
The text of a double: the fewest digits that are read back as the same double, and of those
the ones nearest to it. The numbers that read back form an interval around the double; a
decimal grid is searched for a point of the interval, the coarsest grid first.
-/

namespace LiveIni.Number.Double

/-- The interval of numbers that are nearest to a double, as fractions of one denominator, and
whether its ends belong to it.
-/
structure Interval where
  low : Nat
  value : Nat
  high : Nat
  den : Nat
  closed : Bool

/-- The interval around `significand * 2 ^ exponent`. Below a power of two the doubles are
twice as dense, so that the lower end is half as far away.
-/
def interval (significand : Nat) (exponent : Int) : Interval :=
  let unit := twoTo exponent.toNat
  let below := if significand = twoTo 52 ∧ -1074 < exponent then 1 else 2
  { low := (4 * significand - below) * unit
    value := 4 * significand * unit
    high := (4 * significand + 2) * unit
    den := 4 * twoTo (-exponent).toNat
    closed := significand % 2 = 0 }

/-- Whether the number `point / den` with the interval's own denominator lies in it. -/
def Interval.contains (i : Interval) (point : Nat) : Bool :=
  if i.closed then i.low ≤ point && point ≤ i.high else i.low < point && point < i.high

/-- The number of digits before the point, or minus the number of zeros after it. -/
def decimalPlace (num den : Nat) : Int :=
  if den ≤ num then Decimal.digitCount (num / den)
  else
    let zeros := (List.range 400).find? (fun j => den ≤ num * tenTo (j + 1))
    Int.neg (zeros.getD 400)

/-- The nearest point of the grid of the given spacing that lies in the interval, if one of
the two neighbours of its value does. The spacing is `10 ^ power`, and the point is given as a
multiple of it.
-/
def Interval.nearest? (i : Interval) (power : Int) : Option Nat :=
  let step := i.den * tenTo power.toNat
  let lift := tenTo (-power).toNat
  let fine := { i with low := i.low * lift, value := i.value * lift, high := i.high * lift }
  let below := fine.value / step
  let above := below + 1
  match fine.contains (below * step), fine.contains (above * step) with
  | true, true =>
    let down := fine.value - below * step
    let up := above * step - fine.value
    some (if down < up ∨ (down = up ∧ below % 2 = 0) then below else above)
  | true, false => some below
  | false, true => some above
  | false, false => none

/-- The shortest digits of a positive finite double, and the place of the point among them. -/
def shortest (significand : Nat) (exponent : Int) : Text × Int :=
  let i := interval significand exponent
  let place := decimalPlace i.value i.den
  let found := (List.range 17).findSome? fun (n : Nat) =>
    let power : Int := place - (n + 1)
    (i.nearest? power).map fun point => (point, power)
  let (point, power) := found.getD (0, 0)
  let digits := Text.ofNat point
  (Text.dropEndWhile (· = '0') digits, power + digits.length)

/-- How doubles are written. Powers of ten from `10 ^ -4` up to below `10 ^ 16` are written with
a point; others are written with one digit before the point and a signed exponent of at least
two digits. `wholePoint` says whether a whole number is followed by `.0`.
-/
structure Style where
  wholePoint : Bool

/-- The text of finite digits in a style. -/
def Style.write (style : Style) (digits : Text) (place : Int) : Text :=
  if -4 < place ∧ place ≤ 16 then
    let body := Decimal.withPoint digits place
    if style.wholePoint ∧ (digits.length : Int) ≤ place then body ++ ['.', '0'] else body
  else
    let power := (place - 1).natAbs
    Decimal.withPoint digits 1 ++ 'e' :: (if place - 1 < 0 then '-' else '+') ::
      (if power < 10 then '0' :: Text.ofNat power else Text.ofNat power)

/-- The text of a double in a style. -/
def renderAs (style : Style) : Double → Text
  | nan => "nan".toList
  | infinite negative => Decimal.withSign negative "inf".toList
  | finite negative significand exponent =>
    Decimal.withSign negative <|
      if significand = 0 then style.write ['0'] 1
      else
        let (digits, place) := shortest significand exponent
        style.write digits place

/-- The text of a double; whole numbers end in `.0`. -/
def render : Double → Text :=
  renderAs ⟨true⟩

/-- Reads a double: decimal notation, `inf`, `infinity` or `nan` in any case. -/
def ofNotation? (t : Text) : Option Double :=
  let (negative, body) := Decimal.readSign t
  let word := Text.lower body
  if word = "inf".toList ∨ word = "infinity".toList then some (infinite negative)
  else if word = "nan".toList then some nan
  else (Decimal.ofNotation? t).map ofDecimal

end LiveIni.Number.Double
