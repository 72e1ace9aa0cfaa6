import LiveIni.Value.Comparison

/-!
Expressions: what stands between the brackets of `$( … )`. Only constants, names, the basic
operators, comparisons, conditions and calls of named operations have a meaning. Everything
else that the grammar admits is kept as a refused node, so that it fails when, and only when,
it is reached.
-/

namespace LiveIni

inductive UnaryOp where
  | negate | affirm | not | invert
deriving DecidableEq, Repr

inductive Connective where
  | and | or
deriving DecidableEq, Repr

/-- What a comparison asks: one of the comparisons that have a meaning, or a refused one with
its name.
-/
inductive Relation where
  | known (op : Comparison)
  | refused (name : String)
deriving DecidableEq, Repr

/-- Expressions.

A connective has a first operand and at least one more; a comparison chain has as many
relations as it has further operands. `surrogates` stands for a text constant with a lone
surrogate, which is no character here, `refusedOperator` for a binary operator without a
meaning and its operands, and `refusedCall` for a call of anything but a name, or a call with
keywords.
-/
inductive Expr where
  | constant (v : Value)
  | refusedConstant (shown : Text)
  | surrogates
  | name (id : Text)
  | unary (op : UnaryOp) (operand : Expr)
  | binary (op : BinaryOp) (left right : Expr)
  | refusedOperator (name : String)
  | connect (op : Connective) (first : Expr) (rest : List Expr)
  | compare (first : Expr) (relations : List Relation) (rest : List Expr)
  | conditional (test body alternative : Expr)
  | call (operation : Text) (args : List Expr)
  | refusedCall
  | refused (element : String)
deriving Repr, Inhabited

end LiveIni
