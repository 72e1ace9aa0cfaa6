import LiveIni.Number.Decimal.Context
import LiveIni.Number.Double.Shortest
import LiveIni.Text.Quoted

/-!
The values that references and expressions stand for: null, a truth value, an integer of
any size, a double, a decimal or a text. Writing a value back into a document is `render?`,
which fails only for integers of more than 4300 digits.
-/

namespace LiveIni

open Number

/-- A value that a binding may have or an expression may result in. -/
inductive Value where
  | null
  | bool (b : Bool)
  | int (n : Int)
  | double (x : Double)
  | decimal (d : ExtendedDecimal)
  | text (t : Text)
deriving DecidableEq, Repr, Inhabited

namespace Value

/-- The most digits that an integer may have when it is converted to text or from text. -/
def maxIntegerDigits : Nat := 4300

/-- The decimal text of an integer, unless it is too long. -/
def renderInt? (n : Int) : Option Text :=
  if n.natAbs < tenTo maxIntegerDigits then some (Text.ofInt n) else none

/-- The text that stands for a value inside a document. Null is the empty text, truth values
are in lower case, and decimals are positional.
-/
def render? : Value → Option Text
  | null => some []
  | bool b => some (if b then "true".toList else "false".toList)
  | int n => renderInt? n
  | double x => some x.render
  | decimal d => some d.positional
  | text t => some t

def typeName : Value → String
  | null => "NoneType"
  | bool _ => "bool"
  | int _ => "int"
  | double _ => "float"
  | decimal _ => "decimal.Decimal"
  | text _ => "str"

def shown : Value → Text
  | null => "None".toList
  | bool b => if b then "True".toList else "False".toList
  | int n => Text.ofInt n
  | double x => x.render
  | decimal d => "Decimal('".toList ++ d.scientific ++ "')".toList
  | text t => Text.quoted t

/-- Whether a value counts as true: everything but null, false, zero and the empty text. -/
def isTrue : Value → Bool
  | null => false
  | bool b => b
  | int n => n != 0
  | double x => !x.isZero
  | decimal d => !d.isZero
  | text t => !t.isEmpty

end Value

/-- A value as a number. Truth values count as the integers zero and one. -/
inductive Numeric where
  | int (n : Int)
  | double (x : Double)
  | decimal (d : ExtendedDecimal)
deriving DecidableEq, Repr

/-- The number that a value is, if it is one. -/
def Value.numeric? : Value → Option Numeric
  | .bool b => some (.int b.toInt)
  | .int n => some (.int n)
  | .double x => some (.double x)
  | .decimal d => some (.decimal d)
  | _ => none

end LiveIni
