import LiveIni.Proofs.Computation
import LiveIni.Substitution

/-!
One evaluation in two scopes, side by side. A relation between runs that is kept from step to step holds
of whole expressions and texts, if it holds where an operation is invoked and where a reference is to
nothing: everything else reads the same names in the same order.
-/

namespace LiveIni

-----------------------------------------------------------------------------------------
-- Relations between runs
-----------------------------------------------------------------------------------------

/-- The relation holds of runs that end alike at once, and of runs in it that go on in it. -/
structure Run.Congruent (related : ∀ {α : Type}, Run α → Run α → Prop) : Prop where
  pure : ∀ {α : Type} (a : α), related (pure a : Run α) (pure a)
  throw : ∀ {α : Type} (fault : Fault), related (throw fault : Run α) (throw fault)
  bind : ∀ {α β : Type} {left right : Run α} {leftNext rightNext : α → Run β}, related left right
    → (∀ a, related (leftNext a) (rightNext a))
    → related (left >>= leftNext) (right >>= rightNext)

namespace Run.Congruent

variable {related : ∀ {α : Type}, Run α → Run α → Prop} (steps : Congruent related)
include steps

/-- Steps for all items of a list keep the relation, by induction on the list. -/
theorem mapM {α β : Type} {left right : α → Run β} (each : ∀ a, related (left a) (right a))
    (items : List α)
    : related (items.mapM left) (items.mapM right) := by
  induction items with
  | nil =>
      simp only [List.mapM_nil]
      exact steps.pure []
  | cons item rest ih =>
      simp only [List.mapM_cons]
      exact steps.bind (each item) fun b => steps.bind ih fun bs => steps.pure (b :: bs)

theorem ofOperands {α : Type} (result : Except OperandFault α)
    : related (Run.ofOperands result) (Run.ofOperands result) := by
  cases result with
  | ok a => exact steps.pure a
  | error fault => exact steps.throw _

variable {left right : Expr → Run Value} (operands : ∀ e, related (left e) (right e))
include operands

/-- A connective stops at the same operand on both sides, by induction on those left. -/
theorem connectFrom (op : Connective) (v : Value) (rest : List Expr)
    : related (Scope.connectFrom left op v rest) (Scope.connectFrom right op v rest) := by
  induction rest generalizing v with
  | nil => exact steps.pure v
  | cons e rest ih =>
      unfold Scope.connectFrom
      split
      · exact steps.pure v
      · exact steps.bind (operands e) ih

/-- A comparison chain stops at the same relation on both sides, by induction on those left. -/
theorem compareFrom (first : Value) (rest : List (Relation × Expr))
    : related (Scope.compareFrom left first rest) (Scope.compareFrom right first rest) := by
  induction rest generalizing first with
  | nil => exact steps.pure _
  | cons head rest ih =>
      obtain ⟨relation, e⟩ := head
      cases relation with
      | refused name => exact steps.throw _
      | known op =>
          refine steps.bind (operands e) fun second => ?_
          refine steps.bind (steps.ofOperands _) fun holds => ?_
          split
          · exact ih second
          · exact steps.pure _

end Run.Congruent

-----------------------------------------------------------------------------------------
-- Scopes with the same names
-----------------------------------------------------------------------------------------

namespace Scope

/-- The reference is to nothing: to no environment variable if it is to one, and else to no binding
and no builtin.
-/
def Lacks (scope : Scope) (name : Text) : Prop :=
  match "env:".toList.isPrefixOf? name with
  | some key => scope.environment.get? key = none
  | none => scope.bindings.get? name = none ∧ builtin? name = none

/-- The scopes have the same names and limits, and the relation holds where they invoke an operation
and where a reference is to nothing.
-/
structure Alongside (related : ∀ {α : Type}, Run α → Run α → Prop) (left right : Scope) : Prop where
  bindings : left.bindings = right.bindings
  operations : left.operations = right.operations
  environment : left.environment = right.environment
  names : left.names = right.names
  limits : left.limits = right.limits
  invoke : ∀ name op args, related (left.invoke name op args) (right.invoke name op args)
  unbound : ∀ name, left.Lacks name → related (left.unbound name) (right.unbound name)

namespace Alongside

variable {related : ∀ {α : Type}, Run α → Run α → Prop} {left right : Scope}
  (steps : Run.Congruent related) (scopes : Alongside related left right)
include steps scopes

/-- A reference is looked up in the same places on both sides. -/
theorem lookup (name : Text) : related (left.lookup name) (right.lookup name) := by
  have lacks := scopes.unbound name
  unfold Scope.Lacks at lacks
  unfold Scope.lookup
  rw [← scopes.environment, ← scopes.bindings]
  cases marked : "env:".toList.isPrefixOf? name with
  | some key =>
      rw [marked] at lacks
      dsimp only
      cases found : left.environment.get? key with
      | some t => exact steps.pure _
      | none => exact lacks found
  | none =>
      rw [marked] at lacks
      dsimp only
      cases found : left.bindings.get? name with
      | some binding =>
          cases binding with
          | value v => exact steps.pure v
          | deferred op => exact scopes.invoke name op []
      | none =>
          dsimp only
          cases builtin : builtin? name with
          | some v => exact steps.pure v
          | none => exact lacks ⟨found, builtin⟩

/-- A bare name has a value in the same way on both sides. -/
theorem nameValue (name : Text) : related (left.nameValue name) (right.nameValue name) := by
  unfold Scope.nameValue
  rw [← scopes.bindings, ← scopes.operations]
  cases left.bindings.get? name with
  | some binding => exact scopes.lookup steps name
  | none =>
      cases left.operations.get? name with
      | some op => exact scopes.invoke name op []
      | none => exact scopes.lookup steps name

/-- A name is called in the same way on both sides. -/
theorem callName (name : Text) (args : List Value)
    : related (left.callName name args) (right.callName name args) := by
  unfold Scope.callName
  rw [← scopes.bindings, ← scopes.operations]
  cases left.operations.get? name with
  | some op => exact scopes.invoke name op args
  | none =>
      cases left.bindings.get? name with
      | none => exact steps.throw _
      | some binding =>
          cases binding with
          | value v => exact steps.throw _
          | deferred op => exact scopes.invoke name op args

/-- An expression is evaluated in the relation.
Witness: induction on the depth; each constructor evaluates the same operands in the same order, and
decides by their values alone which further ones it evaluates.
-/
theorem eval (source : Text) (depth : Nat) (e : Expr)
    : related (left.eval source depth e) (right.eval source depth e) := by
  induction depth generalizing e with
  | zero => exact steps.throw _
  | succ depth ih =>
      cases e with
      | constant v => exact steps.pure v
      | refusedConstant shown => exact steps.throw _
      | surrogates => exact steps.throw _
      | name id => exact scopes.nameValue steps id
      | unary op operand =>
          refine steps.bind (ih operand) fun v => ?_
          cases op.apply v with
          | ok result => exact steps.pure result
          | error fault => exact steps.throw fault
      | binary op first second =>
          exact steps.bind (ih first) fun l => steps.bind (ih second) fun r => steps.ofOperands _
      | refusedOperator name => exact steps.throw _
      | connect op first rest =>
          exact steps.bind (ih first) fun v => steps.connectFrom ih op v rest
      | compare first relations rest =>
          exact steps.bind (ih first) fun v => steps.compareFrom ih v _
      | conditional test body other =>
          refine steps.bind (ih test) fun v => ?_
          split
          · exact ih body
          · exact ih other
      | call operation args =>
          exact steps.bind (steps.mapM ih args) fun values => scopes.callName steps operation values
      | refusedCall => exact steps.throw _
      | refused element => exact steps.throw _

theorem evaluate (source : Text) : related (left.evaluate source) (right.evaluate source) := by
  unfold Scope.evaluate
  rw [← scopes.names, ← scopes.limits]
  dsimp only
  split
  · exact steps.pure _
  · split
    · exact steps.throw _
    · split
      · exact steps.throw _
      · split
        · exact scopes.eval steps source _ _
        · exact steps.throw _

/-- A value has a text within the same limits on both sides. -/
theorem render (v : Value) : related (left.render v) (right.render v) := by
  have same : right.text? v = left.text? v := by
    cases v <;> simp only [Scope.text?, scopes.limits]
  unfold Scope.render
  rw [same]
  cases left.text? v with
  | some t => exact steps.pure t
  | none => cases v <;> exact steps.throw _

/-- A piece of a text is replaced in the relation. -/
theorem replace (piece : Piece) : related (left.replace piece) (right.replace piece) := by
  cases piece with
  | literal t => exact steps.pure t
  | reference name => exact steps.bind (scopes.lookup steps name) (scopes.render steps)
  | expression source => exact steps.bind (scopes.evaluate steps source) (scopes.render steps)
  | malformed fault => exact steps.throw fault

/-- A text is substituted in the relation: its pieces do not depend on the scope. -/
theorem substitute (t : Text) : related (left.substitute t) (right.substitute t) :=
  steps.bind (steps.mapM (scopes.replace steps) (Piece.ofText t)) fun texts =>
    steps.pure texts.flatten

end Alongside

end Scope

end LiveIni
