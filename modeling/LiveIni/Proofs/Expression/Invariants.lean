import LiveIni.Proofs.Computation
import LiveIni.Proofs.Expression.Leaves
import LiveIni.Substitution

/-!
What the value of an expression keeps from its leaves. An invariant says which values the
evaluation may hold after so and so many leaves, and which faults it may end with; if single
operators and calls keep it, whole expressions do.
-/

namespace LiveIni

-----------------------------------------------------------------------------------------
-- What a run ensures
-----------------------------------------------------------------------------------------

/-- From any calls, the run results in a good value or ends with one of the given faults. -/
structure Run.Ensures {α : Type} (good : α → Prop) (bad : Fault → Prop) (run : Run α) : Prop where
  result : ∀ {calls a after}, run calls = (.ok a, after) → good a
  fault : ∀ {calls f after}, run calls = (.error f, after) → bad f

namespace Run.Ensures

variable {α β : Type} {good better : α → Prop} {fine : β → Prop} {bad : Fault → Prop}
  {run : Run α}

theorem done {a : α} (holds : good a) : Ensures good bad (pure a : Run α) where
  result := by
    rintro calls b after ⟨⟩
    exact holds
  fault := nofun

theorem fails {f : Fault} (holds : bad f) : Ensures good bad (throw f : Run α) where
  result := nofun
  fault := by
    rintro calls g after ⟨⟩
    exact holds

theorem bind {next : α → Run β} (first : Ensures good bad run)
    (second : ∀ a, good a → Ensures fine bad (next a))
    : Ensures fine bad (run >>= next) where
  result := by
    intro calls b after ran
    obtain ⟨a, middle, here, there⟩ := Computation.ok_of_bind ran
    exact (second a (first.result here)).result there
  fault := by
    intro calls f after ran
    rcases Computation.bind_fails_iff.mp ran with here | ⟨a, middle, here, there⟩
    · exact first.fault here
    · exact (second a (first.result here)).fault there

/-- To record a call cannot fail. -/
theorem records (change : Calls → Calls)
    : Ensures (fun _ => True) bad (modify change : Run PUnit) where
  result := fun _ => trivial
  fault := nofun

theorem counts : Ensures (fun _ => True) bad (get : Run Calls) where
  result := fun _ => trivial
  fault := nofun

theorem mono (ensured : Ensures good bad run) (stronger : ∀ a, good a → better a)
    : Ensures better bad run where
  result ran := stronger _ (ensured.result ran)
  fault ran := ensured.fault ran

theorem allow {worse : Fault → Prop} (ensured : Ensures good bad run)
    (weaker : ∀ f, bad f → worse f)
    : Ensures good worse run where
  result ran := ensured.result ran
  fault ran := weaker _ (ensured.fault ran)

/-- By induction on the items. -/
theorem mapM {items : List α} {step : α → Run β}
    (steps : ∀ a ∈ items, Ensures fine bad (step a))
    : Ensures (fun results => ∀ b ∈ results, fine b) bad (items.mapM step) := by
  induction items with
  | nil => exact done (by simp)
  | cons a rest ih =>
      rw [List.mapM_cons]
      refine (steps a List.mem_cons_self).bind fun b holds => ?_
      refine (ih fun a member => steps a (List.mem_cons_of_mem _ member)).bind fun bs others => ?_
      exact done (List.forall_mem_cons.mpr ⟨holds, others⟩)

theorem ofOperands {result : Except OperandFault α} (ok : ∀ a, result = .ok a → good a)
    (error : ∀ f, result = .error f → bad (.operands f))
    : Ensures good bad (Run.ofOperands result) := by
  cases result with
  | ok a => exact done (ok a rfl)
  | error f => exact fails (error f rfl)

end Run.Ensures

-----------------------------------------------------------------------------------------
-- References and calls
-----------------------------------------------------------------------------------------

namespace Scope

variable {scope : Scope} {good : Value → Prop} {bad : Fault → Prop} {name : Text}

/-- The scope can invoke the operation under some name. -/
def Holds (scope : Scope) (op : Operation) : Prop :=
  (∃ name, scope.operations.get? name = some op)
    ∨ ∃ name, scope.bindings.get? name = some (.deferred op)

/-- What references and calls may start from is good: what names are bound to and stand for, the
builtins, and what the operations of the scope result in.
-/
structure Supplies (scope : Scope) (good : Value → Prop) (bad : Fault → Prop) (name : Text) : Prop
    where
  bound : ∀ {v}, scope.bindings.get? name = some (.value v) → good v
  defined : ∀ {key t}, Piece.environmentMark.isPrefixOf? name = some key
    → scope.environment.get? key = some t → good (.text t)
  truth : ∀ b, good (.bool b)
  null : good .null
  invoked : ∀ {op}, scope.Holds op → ∀ args, (scope.invoke name op args).Ensures good bad
  undefined : bad (.undefined name)
  unknown : bad (.unknownOperation name)

namespace Supplies

variable (supplies : scope.Supplies good bad name)
include supplies

theorem unbound : (scope.unbound name).Ensures good bad := by
  unfold Scope.unbound
  split
  · exact .fails supplies.undefined
  · exact .done supplies.null

theorem builtin? {v : Value} (found : Scope.builtin? name = some v) : good v := by
  unfold Scope.builtin? at found
  dsimp only at found
  split at found
  · cases found
    exact supplies.truth true
  · split at found
    · cases found
      exact supplies.truth false
    · split at found <;> cases found
      exact supplies.null

/-- A reference has a good value, by the cases of what it may refer to. -/
theorem lookup : (scope.lookup name).Ensures good bad := by
  unfold Scope.lookup
  split
  · next key marked =>
      split
      · next t found => exact .done (supplies.defined marked found)
      · exact supplies.unbound
  · split
    · next v found => exact .done (supplies.bound found)
    · next op found => exact supplies.invoked (Or.inr ⟨name, found⟩) []
    · split
      · next v found => exact .done (supplies.builtin? found)
      · exact supplies.unbound

theorem nameValue : (scope.nameValue name).Ensures good bad := by
  unfold Scope.nameValue
  split
  · next op _ found => exact supplies.invoked (Or.inl ⟨name, found⟩) []
  · exact supplies.lookup

theorem callName (args : List Value) : (scope.callName name args).Ensures good bad := by
  unfold Scope.callName
  split
  · next op _ found => exact supplies.invoked (Or.inl ⟨name, found⟩) args
  · next op _ found => exact supplies.invoked (Or.inr ⟨name, found⟩) args
  · exact .fails supplies.unknown

end Supplies

end Scope

-----------------------------------------------------------------------------------------
-- Invariants of evaluation
-----------------------------------------------------------------------------------------

/-- Evaluation with these operands keeps to values that are `good` for the number of leaves that
they come from, and ends with no faults but `bad` ones.
-/
structure Scope.Invariant (scope : Scope) (good : Nat → Value → Prop) (bad : Fault → Prop) : Prop
    where
  /-- More leaves allow for no fewer values. -/
  mono : ∀ {m n v}, m ≤ n → good m v → good n v
  /-- A truth value may stand for any other. -/
  truth : ∀ {n v} (b : Bool), good n v → good n (.bool b)
  unary : ∀ {n v w} (op : UnaryOp), good n v → op.apply v = .ok w → good n w
  notUnary : ∀ {n v f} (op : UnaryOp), good n v → op.apply v = .error f → bad f
  binary : ∀ {m n v w u} (op : BinaryOp), good m v → good n w → v.apply op w = .ok u
    → good (m + n) u
  notBinary : ∀ {m n v w f} (op : BinaryOp), good m v → good n w → v.apply op w = .error f
    → bad (.operands f)
  notComparable : ∀ {m n v w f} (op : Comparison), good m v → good n w
    → v.compareBy op w = .error f → bad (.operands f)
  call : ∀ (name : Text) {n : Nat} {args : List Value}, (∀ v ∈ args, ∃ m, good m v)
    → (scope.callName name args).Ensures (good n) bad
  tooDeep : ∀ source, bad (.tooDeep source)
  constant : ∀ shown, bad (.unsupportedConstant shown)
  surrogates : bad .surrogates
  operator : ∀ name, bad (.unsupportedOperator name)
  comparison : ∀ name, bad (.unsupportedComparison name)
  plainCall : bad .unplainCall
  element : ∀ name, bad (.unsupportedElement name)

/-- The value of a leaf is good for one leaf. -/
def Scope.LeafKeeps (scope : Scope) (good : Nat → Value → Prop) (bad : Fault → Prop) : Expr → Prop
  | .constant v => good 1 v
  | .name id => (scope.nameValue id).Ensures (good 1) bad
  | _ => True

namespace Scope.Invariant

variable {scope : Scope} {good : Nat → Value → Prop} {bad : Fault → Prop}
  (invariant : scope.Invariant good bad) {run : Expr → Run Value}
include invariant

/-- A connective results in one of its operands, by induction on those left. -/
theorem connectFrom (op : Connective) {n : Nat} {v : Value} (holds : good n v) {rest : List Expr}
    (steps : ∀ e ∈ rest, (run e).Ensures (good e.leaves.length) bad)
    : (Scope.connectFrom run op v rest).Ensures (good (n + (Expr.leavesOfAll rest).length)) bad := by
  induction rest generalizing n v with
  | nil => exact .done (invariant.mono (Nat.le_add_right _ _) holds)
  | cons e rest ih =>
      unfold Scope.connectFrom
      split
      · exact .done (invariant.mono (Nat.le_add_right _ _) holds)
      · refine (steps e List.mem_cons_self).bind fun w next => ?_
        refine (ih next fun e member => steps e (List.mem_cons_of_mem _ member)).mono fun u found => ?_
        refine invariant.mono ?_ found
        rw [Expr.leavesOfAll, List.length_append]
        exact Nat.le_add_left _ _

/-- A comparison chain results in a truth value, by induction on the relations left. -/
theorem compareFrom {count m : Nat} {first left : Value} (allowed : good count first)
    (holds : good m left) {rest : List (Relation × Expr)}
    (steps : ∀ link ∈ rest, (run link.2).Ensures (good link.2.leaves.length) bad)
    : (Scope.compareFrom run left rest).Ensures (good count) bad := by
  induction rest generalizing m left with
  | nil => exact .done (invariant.truth true allowed)
  | cons link rest ih =>
      obtain ⟨relation, e⟩ := link
      have later : ∀ link ∈ rest, (run link.2).Ensures (good link.2.leaves.length) bad :=
        fun link member => steps link (List.mem_cons_of_mem _ member)
      cases relation with
      | refused name => exact .fails (invariant.comparison name)
      | known op =>
          refine (steps _ List.mem_cons_self).bind fun right next => ?_
          have compared
              : (Run.ofOperands (left.compareBy op right)).Ensures (fun _ => True) bad :=
            .ofOperands (fun _ _ => trivial) fun f => invariant.notComparable op holds next
          refine compared.bind fun outcome _ => ?_
          split
          · exact ih next later
          · exact .done (invariant.truth false allowed)

/-- The value of an expression is good for its leaves.
Witness: induction on the depth; each constructor has the leaves of its operands, and the value
that it makes of theirs is good for as many as it has evaluated.
-/
theorem eval (source : Text) (depth : Nat) {e : Expr}
    (leaves : ∀ leaf ∈ e.leaves, scope.LeafKeeps good bad leaf)
    : (scope.eval source depth e).Ensures (good e.leaves.length) bad := by
  induction depth generalizing e with
  | zero => exact .fails (invariant.tooDeep source)
  | succ depth ih =>
      cases e with
      | constant v => exact .done (leaves _ List.mem_cons_self)
      | refusedConstant shown => exact .fails (invariant.constant shown)
      | surrogates => exact .fails invariant.surrogates
      | name id => exact leaves (.name id) List.mem_cons_self
      | unary op operand =>
          refine (ih (e := operand) leaves).bind fun v holds => ?_
          cases applied : op.apply v with
          | ok w => exact .done (invariant.unary op holds applied)
          | error f => exact .fails (invariant.notUnary op holds applied)
      | binary op left right =>
          obtain ⟨leftLeaves, rightLeaves⟩ := List.forall_mem_append.mp leaves
          refine (ih leftLeaves).bind fun l holds => (ih rightLeaves).bind fun r next => ?_
          rw [Expr.leaves, List.length_append]
          exact .ofOperands (fun _ => invariant.binary op holds next)
            fun _ => invariant.notBinary op holds next
      | refusedOperator name => exact .fails (invariant.operator name)
      | connect op first rest =>
          obtain ⟨firstLeaves, restLeaves⟩ := List.forall_mem_append.mp leaves
          rw [Expr.leaves, List.length_append]
          refine (ih firstLeaves).bind fun v holds => invariant.connectFrom op holds ?_
          exact fun e member =>
            ih fun leaf found => restLeaves leaf (Expr.leaves_subset_leavesOfAll member found)
      | compare first relations rest =>
          obtain ⟨firstLeaves, restLeaves⟩ := List.forall_mem_append.mp leaves
          rw [Expr.leaves, List.length_append]
          refine (ih firstLeaves).bind fun v holds =>
            invariant.compareFrom (invariant.mono (Nat.le_add_right _ _) holds) holds ?_
          rintro ⟨relation, e⟩ member
          exact ih fun leaf found => restLeaves leaf
            (Expr.leaves_subset_leavesOfAll (List.of_mem_zip member).2 found)
      | conditional test body other =>
          obtain ⟨testLeaves, branches⟩ := List.forall_mem_append.mp leaves
          obtain ⟨bodyLeaves, otherLeaves⟩ := List.forall_mem_append.mp branches
          refine (ih testLeaves).bind fun v holds => ?_
          rw [Expr.leaves, List.length_append, List.length_append]
          split
          · exact (ih bodyLeaves).mono fun w => invariant.mono (by omega)
          · exact (ih otherLeaves).mono fun w => invariant.mono (by omega)
      | call operation args =>
          have values : (args.mapM (scope.eval source depth)).Ensures
              (fun results => ∀ v ∈ results, ∃ m, good m v) bad :=
            .mapM fun e member => (ih fun leaf found =>
              leaves leaf (Expr.leaves_subset_leavesOfAll member found)).mono fun v holds => ⟨_, holds⟩
          exact values.bind fun results all => invariant.call operation all
      | refusedCall => exact .fails invariant.plainCall
      | refused name => exact .fails (invariant.element name)

end Scope.Invariant

end LiveIni
