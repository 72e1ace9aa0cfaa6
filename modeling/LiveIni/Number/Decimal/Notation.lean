import LiveIni.Number.Decimal

/-!
Reading decimal numbers: an optional sign, digits with at most one point among them, and an
optional power of ten after `e`. The reader keeps the form, so that `1.50` and `1.5` are read
as different forms of one number.
-/

namespace LiveIni.Number.Decimal

/-- An optional sign at the start of a text, as "is negative", and what follows it. -/
def readSign : Text → Bool × Text
  | '-' :: rest => (true, rest)
  | '+' :: rest => (false, rest)
  | t => (false, t)

/-- The power of ten at the end of a number, zero if there is none. -/
def readExponent? : Text → Option Int
  | [] => some 0
  | e :: rest =>
    let (negative, digits) := readSign rest
    if (e = 'e' ∨ e = 'E') ∧ digits ≠ [] ∧ digits.all Char.isDigit then
      some (if negative then -(Text.toNat digits : Int) else Text.toNat digits)
    else none

/-- The number that a text writes, in the form in which it is written. -/
def ofNotation? (t : Text) : Option Decimal :=
  let (negative, unsigned) := readSign t
  let (whole, rest) := unsigned.span Char.isDigit
  let (fraction, rest) := match rest with
    | '.' :: more => more.span Char.isDigit
    | _ => ([], rest)
  if whole.isEmpty ∧ fraction.isEmpty then none
  else
    (readExponent? rest).map fun exponent =>
      ⟨negative, Text.toNat (whole ++ fraction), exponent - fraction.length⟩

end LiveIni.Number.Decimal
