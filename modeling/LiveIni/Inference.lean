import LiveIni.Literal.Format
import LiveIni.Text.Blank

/-!
Type inference: a text becomes a truth value, a number or itself. A literal with a width must
fit the type that the width names. One without a width takes the first of int32, int64,
decimal and double that holds it. A literal that fits nowhere is kept as text and reported.
-/

namespace LiveIni

open Number

/-- Why a text that is written like a literal is not a number. -/
inductive LiteralFault where
  | exponentOutOfRange
  | doesNotFit (kind : NumberKind)
  | fitsNothing
deriving DecidableEq, Repr

def LiteralFault.message : LiteralFault → String
  | exponentOutOfRange => "exponent out of range"
  | doesNotFit kind => s!"value does not fit {kind.name}"
  | fitsNothing => "value does not fit any numeric type"

/-- A text that is written like a literal and is not a number, and why. -/
structure InvalidLiteral where
  literal : Text
  fault : LiteralFault
deriving DecidableEq, Repr

def InvalidLiteral.message (l : InvalidLiteral) : String :=
  s!"Invalid numeric literal {Text.quotedString l.literal}: {l.fault.message}"

/-- What stops inference altogether: a width that names no type, or a power of ten of more
digits than can be converted.
-/
inductive InferenceFault where
  | unknownWidth (letters : Text)
  | exponentDigits (count : Nat)
deriving DecidableEq, Repr

def InferenceFault.message : InferenceFault → String
  | unknownWidth letters => Text.quotedString letters
  | exponentDigits count =>
    "Exceeds the limit (4300 digits) for integer string conversion: value has " ++
      toString count ++ " digits; use sys.set_int_max_str_digits() to increase the limit"

/-- What a text is when it is read as a number. -/
inductive NumberReading where
  | notNumeric
  | invalid (l : InvalidLiteral)
  | number (v : TypedValue)
deriving DecidableEq, Repr

namespace Inference

-----------------------------------------------------------------------------------------
-- Fitting a value into a kind
-----------------------------------------------------------------------------------------

/-- The greatest decimal that the fixed decimal kind holds. -/
def maxFixed : Decimal := ⟨false, twoTo 96 - 1, 0⟩

/-- Whether a decimal is too large for the fixed decimal kind. -/
def exceedsFixed (d : Decimal) : Bool :=
  d.abs.compare maxFixed = .gt

/-- The fixed decimal for a value: rounded to 29 digits, then to 28 places after the point. It
must not exceed the range before or after that, nor become zero.
-/
def toFixed? (d : Decimal) : Option Decimal :=
  if exceedsFixed d then none
  else
    let rounded := (d.roundDigits 29).roundTo (-28)
    if exceedsFixed rounded || (rounded.isZero && !d.isZero) then none else some rounded

/-- The integer that a value equals. Values of more than 4301 digits are not tried. -/
def toInteger? (d : Decimal) : Option Int :=
  if !d.isZero ∧ (Value.maxIntegerDigits : Int) < d.adjusted then none else d.toInt?

/-- The double for a value, which must not become infinite or zero by rounding. -/
def toDouble? (d : Decimal) : Option Double :=
  let x := Double.ofDecimal d
  if x.isFinite && (d.isZero || !x.isZero) then some x else none

/-- A value as a number of the given kind, if it fits. -/
def fit? (d : Decimal) : NumberKind → Option TypedValue
  | .integer type =>
    (toInteger? d).bind fun n => if type.holds n then some (.integer type n) else none
  | .bigint => (toInteger? d).map .bigint
  | .decimal => (toFixed? d).map .decimal
  | .double => (toDouble? d).map .double

/-- The kinds that are tried for a literal without a width. -/
def candidates (integral : Bool) : List NumberKind :=
  if integral then [.integer .int32, .integer .int64, .decimal, .double] else [.decimal, .double]

-----------------------------------------------------------------------------------------
-- Numbers
-----------------------------------------------------------------------------------------

/-- A value as a number of the given kind, and as an invalid literal if it does not fit. -/
def readAs (source : Text) (d : Decimal) (kind : NumberKind) : NumberReading :=
  match fit? d kind with
  | some v => .number v
  | none => .invalid ⟨source, .doesNotFit kind⟩

/-- The number that a literal stands for. `source` is what an invalid literal is reported as,
and `normalized` is the same text in the invariant format.
-/
def readLiteral (source normalized : Text) (l : Literal)
    : Except InferenceFault NumberReading :=
  match l.toDecimal with
  | .error (.tooManyDigits count) => .error (.exponentDigits count)
  | .error .outOfRange => .ok (.invalid ⟨normalized, .exponentOutOfRange⟩)
  | .ok d =>
    match l.width with
    | some (.unknown letters) => .error (.unknownWidth letters)
    | some (.integer type) => .ok (readAs source d (.integer type))
    | some .bigint => .ok (readAs source d .bigint)
    | some .decimal => .ok (readAs source d .decimal)
    | none =>
      match (candidates l.isIntegral).findSome? (fit? d) with
      | some v => .ok (.number v)
      | none => .ok (.invalid ⟨source, .fitsNothing⟩)

/-- Reads a text as a number in a number format. Blanks around it do not matter. -/
def readNumber (format : NumberFormat) (t : Text) : Except InferenceFault NumberReading :=
  let source := Text.strip t
  match format.normalize? source with
  | none => .ok .notNumeric
  | some normalized =>
    match Literal.read? normalized with
    | none => .ok .notNumeric
    | some l => readLiteral source normalized l

-----------------------------------------------------------------------------------------
-- Truth values
-----------------------------------------------------------------------------------------

/-- The characters that may not stand in front of a truth word: letters and digits, and the
four characters outside ASCII that are another case of such a letter.
-/
def isWordCharacter (c : Char) : Bool :=
  c.isAlphanum || c = 'ſ' || c = '\u212A' || c = 'ı' || c = 'İ'

/-- The truth value that a word writes, in letters of any case. A word written with a long s
is false.
-/
def readWord? (t : Text) : Option Bool :=
  let word := t.map Literal.fold
  if word = "true".toList then some true
  else if word = "false".toList then some false
  else none

/-- The truth value that a text writes. One character that is no letter and no digit may stand
in front of the word.
-/
def readBoolean? (t : Text) : Option Bool :=
  readWord? t <|>
    match t with
    | c :: rest => if isWordCharacter c then none else readWord? rest
    | [] => none

end Inference

/-- Infers the type of a text, together with the invalid literal that it is, if it is one. -/
def infer (format : NumberFormat) (t : Text)
    : Except InferenceFault (TypedValue × Option InvalidLiteral) :=
  match Inference.readBoolean? t with
  | some b => .ok (.boolean b, none)
  | none =>
    (Inference.readNumber format t).map fun
      | .notNumeric => (.string t, none)
      | .invalid l => (.string t, some l)
      | .number v => (v, none)

end LiveIni
