import LiveIni.Value.Arithmetic

/-!
Comparing values. Numbers are compared by their exact values, whatever their types, texts by
code points. Values of different sorts are unequal and have no order.
-/

namespace LiveIni

open Number

inductive Comparison where
  | eq | ne | lt | le | gt | ge
deriving DecidableEq, Repr

namespace Comparison

def symbol : Comparison → String
  | eq => "=="
  | ne => "!="
  | lt => "<"
  | le => "<="
  | gt => ">"
  | ge => ">="

/-- Whether a comparison asks for an order and not only for equality. -/
def isOrder : Comparison → Bool
  | eq | ne => false
  | _ => true

/-- Whether a comparison holds of two values that stand in the given order. -/
def holds : Comparison → Ordering → Bool
  | eq, o => o = .eq
  | ne, o => o ≠ .eq
  | lt, o => o = .lt
  | le, o => o ≠ .gt
  | gt, o => o = .gt
  | ge, o => o ≠ .lt

end Comparison

namespace Numeric

/-- Where a number lies: no number, an infinity, or a fraction with a positive denominator. -/
inductive Extent where
  | undefined
  | infinite (negative : Bool)
  | ratio (num : Int) (den : Nat)

/-- The exact place of a number. -/
def extent : Numeric → Extent
  | int n => .ratio n 1
  | double .nan => .undefined
  | double (.infinite negative) => .infinite negative
  | double x => .ratio x.ratio.1 x.ratio.2
  | decimal (.nan ..) => .undefined
  | decimal (.infinite negative) => .infinite negative
  | decimal (.finite d) => .ratio d.ratio.1 d.ratio.2

/-- The order of two numbers, if neither is NaN. -/
def compare? (a b : Numeric) : Option Ordering :=
  match a.extent, b.extent with
  | .undefined, _ => none
  | _, .undefined => none
  | .infinite m, .infinite n => some (Ord.compare n.toNat m.toNat)
  | .infinite m, _ => some (if m then .lt else .gt)
  | _, .infinite n => some (if n then .gt else .lt)
  | .ratio m d, .ratio n e => some (Ord.compare (m * e) (n * d))

def isDecimal : Numeric → Bool
  | decimal _ => true
  | _ => false

/-- Whether a number is a NaN that every operation refuses. -/
def isSignaling : Numeric → Bool
  | decimal (.nan _ signaling _) => signaling
  | _ => false

/-- Compares two numbers. A NaN is unequal to everything and in no order; among decimals, to
ask for the order of a NaN is refused.
-/
def compareBy (op : Comparison) (a b : Numeric) : Except OperandFault Bool :=
  match compare? a b with
  | some order => .ok (op.holds order)
  | none =>
    if a.isSignaling || b.isSignaling || ((a.isDecimal || b.isDecimal) && op.isOrder) then
      .error (.decimal .invalidOperation)
    else .ok (op = .ne)

end Numeric

namespace Value

def compareBy (op : Comparison) (left right : Value) : Except OperandFault Bool :=
  match left.numeric?, right.numeric? with
  | some a, some b => a.compareBy op b
  | _, _ =>
    match left, right with
    | .text s, .text t => .ok (op.holds (Text.compare s t))
    | _, _ =>
      if op.isOrder then .error (.incomparable op.symbol left.typeName right.typeName)
      else .ok ((op = .eq) = (left = .null ∧ right = .null))

end Value

end LiveIni
