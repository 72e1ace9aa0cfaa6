import LiveIni.Text.Digit
import LiveIni.Literal

/-!
Number formats: the separators with which numeric literals are written. A literal is read by
first bringing it to the invariant format, with a point and without digit groups.
-/

namespace LiveIni

/-- The separators of a number format. An empty group separator means no digit groups. -/
structure NumberFormat where
  decimalSeparator : Text
  groupSeparator : Text
deriving DecidableEq, Repr, Inhabited

namespace NumberFormat

/-- A point before the fraction, and no digit groups. -/
def invariant : NumberFormat := ⟨['.'], []⟩

/-- What follows one more group, a separator and three digits, at the start of a text. -/
def afterGroup? (separator t : Text) : Option Text :=
  (separator.isPrefixOf? t).bind fun rest =>
    let digits := rest.take 3
    if digits.length = 3 ∧ digits.all Text.isAnyDigit then some (rest.drop 3) else none

/-- What follows one group, two groups, and so on, at the start of a text. -/
def afterGroups (separator : Text) : Nat → Text → List Text
  | 0, _ => []
  | fuel + 1, t =>
    match afterGroup? separator t with
    | none => []
    | some rest => rest :: afterGroups separator fuel rest

/-- What follows the longest grouped number with `head` digits before its first separator: as
many groups as there are, as long as no digit follows them.
-/
def afterGrouped? (separator t : Text) (head : Nat) : Option Text :=
  let digits := t.take head
  if digits.length = head ∧ digits.all Text.isAnyDigit then
    (afterGroups separator t.length (t.drop head)).reverse.find? fun rest =>
      !(rest.head?.any Text.isAnyDigit)
  else none

/-- A text whose leading grouped number, if it starts with one, is written without its
separators. The longest head of one to three digits that works is taken.
-/
def ungroup (separator t : Text) : Text :=
  let (sign, unsigned) := match t with
    | '-' :: rest => (['-'], rest)
    | '+' :: rest => (['+'], rest)
    | _ => ([], t)
  match [3, 2, 1].findSome? (afterGrouped? separator unsigned) with
  | none => t
  | some rest =>
    let grouped := unsigned.take (unsigned.length - rest.length)
    sign ++ Text.replaceAll separator [] grouped ++ rest

/-- Whether a text starts like a hexadecimal literal. -/
def startsHex (t : Text) : Bool :=
  match (Number.Decimal.readSign t).2 with
  | '0' :: x :: _ => Literal.fold x = 'x'
  | _ => false

/-- A text brought to the invariant format. A point that is not the format's own separator
cannot be part of a number; hexadecimal literals are the same in every format.
-/
def normalize? (format : NumberFormat) (t : Text) : Option Text :=
  if startsHex t then some t
  else
    let t := if format.groupSeparator.isEmpty then t else ungroup format.groupSeparator t
    if format.decimalSeparator = ['.'] then some t
    else if t.contains '.' then none
    else some (Text.replaceAll format.decimalSeparator ['.'] t)

end NumberFormat

end LiveIni
