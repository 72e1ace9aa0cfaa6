import LiveIni.Value

/-!
Typed values: what a value of a document is after its type has been inferred. The kinds are
text, truth value, the fixed-width integers, integers of any size, decimals of at most 29
digits, and doubles.
-/

namespace LiveIni

open Number

/-- The fixed-width integer types. -/
inductive IntegerType where
  | int8 | uint8 | int16 | uint16 | int32 | uint32 | int64 | uint64
deriving DecidableEq, Repr

namespace IntegerType

def bits : IntegerType → Nat
  | int8 | uint8 => 8
  | int16 | uint16 => 16
  | int32 | uint32 => 32
  | int64 | uint64 => 64

def isSigned : IntegerType → Bool
  | int8 | int16 | int32 | int64 => true
  | uint8 | uint16 | uint32 | uint64 => false

def least (type : IntegerType) : Int :=
  if type.isSigned then -(twoTo (type.bits - 1) : Int) else 0

def greatest (type : IntegerType) : Int :=
  if type.isSigned then (twoTo (type.bits - 1) : Int) - 1 else (twoTo type.bits : Int) - 1

def holds (type : IntegerType) (n : Int) : Bool :=
  type.least ≤ n && n ≤ type.greatest

def name : IntegerType → String
  | int8 => "int8"
  | uint8 => "uint8"
  | int16 => "int16"
  | uint16 => "uint16"
  | int32 => "int32"
  | uint32 => "uint32"
  | int64 => "int64"
  | uint64 => "uint64"

end IntegerType

/-- The kinds that a number can have. -/
inductive NumberKind where
  | integer (type : IntegerType)
  | bigint
  | decimal
  | double
deriving DecidableEq, Repr

def NumberKind.name : NumberKind → String
  | integer type => type.name
  | bigint => "bigint"
  | decimal => "decimal"
  | double => "double"

/-- A value together with its inferred kind. -/
inductive TypedValue where
  | string (t : Text)
  | boolean (b : Bool)
  | integer (type : IntegerType) (n : Int)
  | bigint (n : Int)
  | decimal (d : Decimal)
  | double (x : Double)
deriving DecidableEq, Repr, Inhabited

namespace TypedValue

def kindName : TypedValue → String
  | string _ => "string"
  | boolean _ => "boolean"
  | integer type _ => type.name
  | bigint _ => "bigint"
  | decimal _ => "decimal"
  | double _ => "double"

def value : TypedValue → Value
  | string t => .text t
  | boolean b => .bool b
  | integer _ n => .int n
  | bigint n => .int n
  | decimal d => .decimal (.finite d)
  | double x => .double x

/-- The text written in place of the value when a document is expanded. -/
def render? (v : TypedValue) : Option Text :=
  v.value.render?

/-- Whether two typed values have one kind and equal values. Decimals and doubles are equal if
they are the same number, in whatever form.
-/
def same : TypedValue → TypedValue → Bool
  | decimal a, decimal b => a.compare b = .eq
  | double x, double y => x.compare? y = some .eq
  | a, b => a = b

end TypedValue

end LiveIni
