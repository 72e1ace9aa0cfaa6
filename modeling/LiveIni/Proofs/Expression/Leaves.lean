import LiveIni.Expression

/-!
The leaves of an expression: what its value is made of.
-/

namespace LiveIni.Expr

mutual

/-- The constants and names of an expression, from left to right. A refused node has none: its
operands are not part of the tree.
-/
def leaves : Expr → List Expr
  | .constant v => [.constant v]
  | .refusedConstant shown => [.refusedConstant shown]
  | .surrogates => [.surrogates]
  | .name id => [.name id]
  | .unary _ operand => operand.leaves
  | .binary _ left right => left.leaves ++ right.leaves
  | .refusedOperator _ => []
  | .connect _ first rest => first.leaves ++ leavesOfAll rest
  | .compare first _ rest => first.leaves ++ leavesOfAll rest
  | .conditional test body other => test.leaves ++ (body.leaves ++ other.leaves)
  | .call _ args => leavesOfAll args
  | .refusedCall => []
  | .refused _ => []

/-- The leaves of some expressions, one after another. -/
def leavesOfAll : List Expr → List Expr
  | [] => []
  | e :: rest => e.leaves ++ leavesOfAll rest

end

theorem leavesOfAll_eq_flatMap (items : List Expr) : leavesOfAll items = items.flatMap leaves := by
  induction items with
  | nil => rfl
  | cons e rest ih => rw [leavesOfAll, List.flatMap_cons, ih]

theorem leaves_subset_leavesOfAll {e : Expr} {items : List Expr} (member : e ∈ items)
    : e.leaves ⊆ leavesOfAll items := by
  intro leaf found
  rw [leavesOfAll_eq_flatMap]
  exact List.mem_flatMap_of_mem member found

end LiveIni.Expr
