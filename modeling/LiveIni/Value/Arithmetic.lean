import LiveIni.Value

/-!
The binary operators on values. Numbers of mixed types meet in the wider type: integers and
doubles as doubles, integers and decimals as decimals, while doubles and decimals do not mix.
Texts can be joined and repeated. Every other combination is a fault.
-/

namespace LiveIni

open Number

inductive BinaryOp where
  | add | sub | mul | div | floorDiv | mod
deriving DecidableEq, Repr

def BinaryOp.symbol : BinaryOp → String
  | add => "+"
  | sub => "-"
  | mul => "*"
  | div => "/"
  | floorDiv => "//"
  | mod => "%"

/-- Why an operator has no result for its operands. The operands' types are named as in
messages.
-/
inductive OperandFault where
  | unsupported (op : BinaryOp) (left right : String)
  | joinedWith (type : String)
  | repeatedBy (type : String)
  | formatting
  | repetitionTooLong
  | repetitionCount
  | incomparable (symbol left right : String)
  | zeroDivision (message : String)
  | integerTooLarge
  | quotientTooLarge
  | decimal (signal : DecimalSignal)
deriving DecidableEq, Repr

namespace Value

/-- The most characters that a repetition may result in. -/
def maxRepetition : Nat := 65536

/-- An integer as a double, unless it is too large for one. -/
def intToDouble (n : Int) : Except OperandFault Double :=
  match Double.ofInt n with
  | .infinite _ => .error .integerTooLarge
  | x => .ok x

/-- The quotient of two integers as the nearest double. A zero quotient keeps its sign. -/
def divInts (m n : Int) : Except OperandFault Value :=
  if n = 0 then .error (.zeroDivision "division by zero")
  else match Double.ofRatio ((m < 0) != (n < 0)) m.natAbs n.natAbs with
    | .infinite _ => .error .quotientTooLarge
    | x => .ok (.double x)

/-- The operators on integers. Whole quotients are rounded down, and the rest of a division has
the sign of the divisor.
-/
def applyInts (op : BinaryOp) (m n : Int) : Except OperandFault Value :=
  match op with
  | .add => .ok (.int (m + n))
  | .sub => .ok (.int (m - n))
  | .mul => .ok (.int (m * n))
  | .div => divInts m n
  | .floorDiv =>
    if n = 0 then .error (.zeroDivision "integer division or modulo by zero")
    else .ok (.int (Int.fdiv m n))
  | .mod =>
    if n = 0 then .error (.zeroDivision "integer modulo by zero") else .ok (.int (Int.fmod m n))

/-- The rest of a division of doubles, moved to the sign of the divisor. -/
def modDoubles (x y : Double) : Double :=
  let rest := x.rem y
  if rest.isZero then Double.zero y.isNegative
  else if rest ≠ .nan ∧ rest.isNegative ≠ y.isNegative then rest.add y
  else rest

/-- The whole quotient of doubles: the dividend without the rest of the division, divided and
brought to the nearest whole number, which the rounding of the two steps may have missed.
-/
def floorDivDoubles (x y : Double) : Double :=
  let rest := x.rem y
  let quotient := (x.sub rest).div y
  let quotient :=
    if !rest.isZero && rest ≠ .nan && rest.isNegative ≠ y.isNegative then
      quotient.sub (Double.ofInt 1)
    else quotient
  if quotient.isZero then Double.zero (x.isNegative != y.isNegative)
  else
    let down := quotient.floor
    match (quotient.sub down).compare? (Double.ofRatio false 1 2) with
    | some .gt => down.add (Double.ofInt 1)
    | _ => down

def applyDoubles (op : BinaryOp) (x y : Double) : Except OperandFault Value :=
  match op with
  | .add => .ok (.double (x.add y))
  | .sub => .ok (.double (x.sub y))
  | .mul => .ok (.double (x.mul y))
  | .div =>
    if y.isZero then .error (.zeroDivision "float division by zero")
    else .ok (.double (x.div y))
  | .floorDiv =>
    if y.isZero then .error (.zeroDivision "float floor division by zero")
    else .ok (.double (floorDivDoubles x y))
  | .mod =>
    if y.isZero then .error (.zeroDivision "float modulo") else .ok (.double (modDoubles x y))

/-- The operators on decimals, with twenty-eight digits. -/
def applyDecimals (op : BinaryOp) (x y : ExtendedDecimal) : Except OperandFault Value :=
  let ctx := DecimalContext.standard
  let result := match op with
    | .add => ctx.add x y
    | .sub => ctx.sub x y
    | .mul => ctx.mul x y
    | .div => ctx.div x y
    | .floorDiv => ctx.divWhole x y
    | .mod => ctx.rem x y
  match result with
  | .ok d => .ok (.decimal d)
  | .error signal => .error (.decimal signal)

/-- The operators on numbers; `none` if the two types do not mix. -/
def applyNumbers? (op : BinaryOp) : Numeric → Numeric → Option (Except OperandFault Value)
  | .int m, .int n => some (applyInts op m n)
  | .double x, .double y => some (applyDoubles op x y)
  | .int m, .double y => some (intToDouble m >>= fun x => applyDoubles op x y)
  | .double x, .int n => some (intToDouble n >>= fun y => applyDoubles op x y)
  | .decimal x, .decimal y => some (applyDecimals op x y)
  | .int m, .decimal y => some (applyDecimals op (.finite (Decimal.ofInt m)) y)
  | .decimal x, .int n => some (applyDecimals op x (.finite (Decimal.ofInt n)))
  | _, _ => none

/-- A text repeated as often as a value says. The length of the result is bounded, and a count
below one gives the empty text.
-/
def repeatText (t : Text) (count : Value) : Except OperandFault Value :=
  match count.numeric? with
  | some (.int n) =>
    if maxRepetition < t.length * n.toNat then .error .repetitionTooLong
    else if n < -(twoTo 63 : Int) ∨ (twoTo 63 : Int) ≤ n then .error .repetitionCount
    else .ok (.text (List.replicate n.toNat t).flatten)
  | _ => .error (.repeatedBy count.typeName)

/-- The operators on texts; `none` if the operands are no texts or the operator has no meaning
for texts.
-/
def applyTexts? (op : BinaryOp) (left right : Value) : Option (Except OperandFault Value) :=
  match op, left, right with
  | .mod, .text _, _ => some (.error .formatting)
  | .add, .text s, .text t => some (.ok (.text (s ++ t)))
  | .add, .text _, v => some (.error (.joinedWith v.typeName))
  | .mul, .text t, v => some (repeatText t v)
  | .mul, v, .text t => some (repeatText t v)
  | _, _, _ => none

def apply (op : BinaryOp) (left right : Value) : Except OperandFault Value :=
  let numbers := do applyNumbers? op (← left.numeric?) (← right.numeric?)
  (numbers <|> applyTexts? op left right).getD
    (.error (.unsupported op left.typeName right.typeName))

end Value

end LiveIni
