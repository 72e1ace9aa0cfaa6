import LiveIni.TypedValue

/-!
Numeric literals: a sign, a magnitude, a width that names the type, and a multiplier. Letters
may be of either case, and the two letters outside ASCII whose other case is an ASCII letter
count as that letter: the long s and the Kelvin sign.

    [sign] 0x<hex digits> [integer width] [multiplier]
    [sign] [digits][.digits][e[sign]digits] [width] [multiplier]
-/

namespace LiveIni

open Number

/-- What the width letters of a literal name. A width written with the long s is read as a
width and yet names no type.
-/
inductive Width where
  | integer (type : IntegerType)
  | bigint
  | decimal
  | unknown (letters : Text)
deriving DecidableEq, Repr

/-- The multipliers, powers of 1024. -/
inductive Multiplier where
  | kilo | mega | giga | tera | peta
deriving DecidableEq, Repr

def Multiplier.factor : Multiplier → Nat
  | kilo => twoTo 10
  | mega => twoTo 20
  | giga => twoTo 30
  | tera => twoTo 40
  | peta => twoTo 50

/-- A signed power of ten, as it is written. -/
structure WrittenExponent where
  negative : Bool
  digits : Text
deriving DecidableEq, Repr

/-- The unsigned part of a literal, as it is written. A fraction can be there and have no
digits, as in `1.`
-/
inductive Magnitude where
  | hex (digits : Text)
  | decimal (whole : Text) (fraction : Option Text) (exponent : Option WrittenExponent)
deriving DecidableEq, Repr

/-- A numeric literal. -/
structure Literal where
  negative : Bool
  magnitude : Magnitude
  width : Option Width
  multiplier : Option Multiplier
deriving DecidableEq, Repr

namespace Literal

/-- The lower-case letter that a character counts as in a literal. -/
def fold (c : Char) : Char :=
  if c = 'ſ' then 's' else if c = '\u212A' then 'k' else c.toLower

-----------------------------------------------------------------------------------------
-- Reading
-----------------------------------------------------------------------------------------

/-- The width that some lower-case letters name. -/
def widthOf? : Text → Option Width
  | ['y'] => some (.integer .int8)
  | ['u', 'y'] => some (.integer .uint8)
  | ['s'] => some (.integer .int16)
  | ['u', 's'] => some (.integer .uint16)
  | ['u'] => some (.integer .uint32)
  | ['l'] => some (.integer .int64)
  | ['u', 'l'] => some (.integer .uint64)
  | ['n'] => some .bigint
  | ['d'] => some .decimal
  | _ => none

/-- The multiplier that some lower-case letters name. -/
def multiplierOf? : Text → Option Multiplier
  | ['k', 'b'] => some .kilo
  | ['m', 'b'] => some .mega
  | ['g', 'b'] => some .giga
  | ['t', 'b'] => some .tera
  | ['p', 'b'] => some .peta
  | _ => none

/-- The optional width that the given letters write. -/
def readWidth? (letters : Text) : Option (Option Width) :=
  if letters.isEmpty then some none
  else
    (widthOf? (letters.map fold)).map fun width =>
      some (if letters.contains 'ſ' then .unknown (Text.lower letters) else width)

/-- The optional width and multiplier that the letters after the digits write. No width ends
in the letters of a multiplier, so the last two letters decide.
-/
def readSuffix? (letters : Text) : Option (Option Width × Option Multiplier) :=
  let cut := letters.length - 2
  match multiplierOf? ((letters.drop cut).map fold) with
  | some multiplier => (readWidth? (letters.take cut)).map fun width => (width, some multiplier)
  | none => (readWidth? letters).map fun width => (width, none)

/-- The power of ten at the start of a text, if one begins there, and what follows it. -/
def readExponent? : Text → Option (Option WrittenExponent × Text)
  | e :: rest =>
    if fold e = 'e' then
      let (negative, unsigned) := Decimal.readSign rest
      let (digits, tail) := unsigned.span Char.isDigit
      if digits.isEmpty then none else some (some ⟨negative, digits⟩, tail)
    else some (none, e :: rest)
  | [] => some (none, [])

/-- The fraction at the start of a text, if a point stands there, and what follows it. -/
def readFraction : Text → Option Text × Text
  | '.' :: more => let (digits, tail) := more.span Char.isDigit; (some digits, tail)
  | t => (none, t)

/-- Reads a decimal magnitude, which has a digit before or after its point. -/
def readDecimal? (t : Text) : Option (Magnitude × Text) :=
  let (whole, rest) := t.span Char.isDigit
  let (fraction, rest) := readFraction rest
  if whole.isEmpty ∧ (fraction.getD []).isEmpty then none
  else (readExponent? rest).map fun (exponent, tail) => (.decimal whole fraction exponent, tail)

/-- Reads a magnitude. After `0x` only hexadecimal digits will do, at least one. -/
def readMagnitude? (t : Text) : Option (Magnitude × Text) :=
  match t with
  | '0' :: x :: rest =>
    if fold x = 'x' then
      let (digits, tail) := rest.span Text.isHexDigit
      if digits.isEmpty then none else some (.hex digits, tail)
    else readDecimal? t
  | _ => readDecimal? t

/-- Reads a literal, which must be the whole text. -/
def read? (t : Text) : Option Literal := do
  let (negative, unsigned) := Decimal.readSign t
  let (magnitude, tail) ← readMagnitude? unsigned
  let (width, multiplier) ← readSuffix? tail
  return { negative, magnitude, width, multiplier }

-----------------------------------------------------------------------------------------
-- Value
-----------------------------------------------------------------------------------------

/-- Whether the literal has neither a fraction nor a power of ten. -/
def isIntegral (l : Literal) : Bool :=
  match l.magnitude with
  | .hex _ => true
  | .decimal _ fraction exponent => fraction.isNone && exponent.isNone

/-- The largest power of ten, up or down, that a literal may have. -/
def maxExponent : Nat := 100000

/-- What may be wrong with a power of ten: too many digits to be read, or out of range. -/
inductive ExponentFault where
  | tooManyDigits (count : Nat)
  | outOfRange
deriving DecidableEq, Repr

/-- The digits of a fraction. An absent one counts as one zero, which shows in the form of the
decimal that comes of it.
-/
def fractionDigits : Option Text → Text
  | some (d :: rest) => d :: rest
  | _ => ['0']

/-- The magnitude as a decimal. A power of ten out of range does no harm to zero. -/
def Magnitude.toDecimal : Magnitude → Except ExponentFault Decimal
  | .hex digits => .ok ⟨false, Text.toNatBase 16 digits, 0⟩
  | .decimal whole fraction exponent =>
    let fraction := fractionDigits fraction
    let digits := whole ++ fraction
    let written := exponent.getD ⟨false, ['0']⟩
    if Value.maxIntegerDigits < written.digits.length then
      .error (.tooManyDigits written.digits.length)
    else
      let size := Text.toNat written.digits
      if maxExponent < size then
        if digits.all (· = '0') then .ok ⟨false, 0, 0⟩ else .error .outOfRange
      else
        let power : Int := if written.negative then -(size : Int) else size
        .ok ⟨false, Text.toNat digits, power - fraction.length⟩

/-- The exact value: the magnitude times the multiplier, with the sign. Zero is positive. -/
def toDecimal (l : Literal) : Except ExponentFault Decimal :=
  (Magnitude.toDecimal l.magnitude).map fun magnitude =>
    let coefficient := magnitude.coefficient * (l.multiplier.map Multiplier.factor).getD 1
    ⟨l.negative && coefficient != 0, coefficient, magnitude.exponent⟩

end Literal

end LiveIni
