import LiveIni.Proofs.Document.Tables
import LiveIni.Proofs.Expression.Invariants
import LiveIni.Proofs.Value.Operators
import LiveIni.Substitution
import Mathlib.Data.List.MinMax
import Mathlib.Order.Nat

/-!
How long a text an expression can result in. Repetition is the only operator that makes more
characters than its operands have, and its results are bounded. Joining adds the lengths of two
operands, which have leaves of their own, so that the length is linear in the number of leaves.
Calls have no part in this: a restricted scope refuses them.
-/

namespace LiveIni

-----------------------------------------------------------------------------------------
-- Lengths
-----------------------------------------------------------------------------------------

/-- The number of characters of a text; other values have none. -/
def Value.textLength : Value → Nat
  | .text t => t.length
  | _ => 0

namespace Expr

/-- The names among the leaves. -/
def names (e : Expr) : List Text :=
  e.leaves.filterMap fun
    | .name id => some id
    | _ => none

/-- The number of characters of a leaf that is a constant text. -/
def constantLength : Expr → Nat
  | .constant v => v.textLength
  | _ => 0

/-- The length of the longest constant text among the leaves. -/
def longestConstant (e : Expr) : Nat :=
  (e.leaves.map constantLength).foldr max 0

theorem constantLength_le_longestConstant {e leaf : Expr} (member : leaf ∈ e.leaves)
    : leaf.constantLength ≤ e.longestConstant := by
  unfold longestConstant
  exact List.le_max_of_le (List.mem_map_of_mem member) (Nat.le_refl _)

theorem mem_names {e : Expr} {id : Text} (member : .name id ∈ e.leaves) : id ∈ e.names :=
  List.mem_filterMap.mpr ⟨.name id, member, rfl⟩

end Expr

/-- The number of characters of a text that a name is bound to. -/
def Binding.textLength : Binding → Nat
  | .value v => v.textLength
  | .deferred _ => 0

namespace Scope

/-- The length of the longest text that a name is bound to. -/
def longestBinding (scope : Scope) : Nat :=
  (scope.bindings.map fun entry => entry.2.textLength).foldr max 0

/-- The number of characters of the environment variable that a name with the mark of one stands
for.
-/
def variableLength (scope : Scope) (name : Text) : Nat :=
  match Piece.environmentMark.isPrefixOf? name with
  | some key => ((scope.environment.get? key).getD []).length
  | none => 0

/-- The length of the longest environment variable that the names of an expression stand for. -/
def longestVariable (scope : Scope) (e : Expr) : Nat :=
  (e.names.map scope.variableLength).foldr max 0

/-- The most characters of one text that an expression can start from or make by repetition:
those of its constants and of the bindings, and the bound of repetition.
-/
def longestText (scope : Scope) (e : Expr) : Nat :=
  max Value.maxRepetition (max e.longestConstant scope.longestBinding)

theorem textLength_le_longestBinding {scope : Scope} {name : Text} {v : Value}
    (found : scope.bindings.get? name = some (.value v))
    : v.textLength ≤ scope.longestBinding := by
  unfold longestBinding
  refine List.le_max_of_le ?_ (Nat.le_refl _)
  exact List.mem_map_of_mem (f := fun entry => entry.2.textLength) (Table.mem_of_get? found)

theorem variableLength_of_get? {scope : Scope} {name key t : Text}
    (marked : Piece.environmentMark.isPrefixOf? name = some key)
    (found : scope.environment.get? key = some t)
    : scope.variableLength name = t.length := by
  rw [variableLength, marked]
  dsimp only
  rw [found, Option.getD_some]

theorem variableLength_le_longestVariable {scope : Scope} {e : Expr} {name : Text}
    (member : name ∈ e.names)
    : scope.variableLength name ≤ scope.longestVariable e := by
  unfold longestVariable
  exact List.le_max_of_le (List.mem_map_of_mem member) (Nat.le_refl _)

/-- Plain names stand for no environment variables, since the mark is missing from them. -/
theorem longestVariable_eq_zero {scope : Scope} {e : Expr}
    (plain : ∀ name ∈ e.names, ¬ Piece.environmentMark <+: name)
    : scope.longestVariable e = 0 := by
  refine Nat.le_zero.mp (List.max_le_of_forall_le (e.names.map scope.variableLength) 0 ?_)
  intro length member
  obtain ⟨name, named, rfl⟩ := List.mem_map.mp member
  unfold variableLength
  cases marked : Piece.environmentMark.isPrefixOf? name with
  | none => exact le_rfl
  | some key =>
      have start : Piece.environmentMark ++ key = name :=
        List.isPrefixOf?_eq_some_iff_append_eq.mp marked
      exact absurd ⟨key, start⟩ (plain name named)

end Scope

-----------------------------------------------------------------------------------------
-- Operators
-----------------------------------------------------------------------------------------

namespace Value

theorem textLength_number {v : Value} (number : v.numeric?.isSome) : v.textLength = 0 := by
  cases v with
  | text t => cases number
  | _ => rfl

/-- An operator results in a text that is no longer than its operands together, or that keeps to
the bound of repetition.
-/
theorem textLength_apply {op : BinaryOp} {left right v : Value} (applied : left.apply op right = .ok v)
    : v.textLength ≤ left.textLength + right.textLength ∨ v.textLength ≤ maxRepetition := by
  rcases apply_cases op left right with ⟨a, b, -, -, numbers⟩ | texts | unsupported
  · have numeric := isNumeric_applyNumbers numbers
    rw [applied] at numeric
    rw [textLength_number numeric.1]
    exact Or.inl (Nat.zero_le _)
  · rw [applied] at texts
    rcases applyTexts?_cases texts with ⟨s, t, rfl, rfl, same⟩ | ⟨t, count, same⟩ | same | ⟨_, same⟩
    · cases same
      exact Or.inl List.length_append.le
    · rcases repeatText_cases t count with ⟨n, short, repeated⟩ | failed | failed | failed
      · rw [repeated] at same
        cases same
        refine Or.inr ?_
        rw [textLength, List.length_flatten, List.map_replicate, List.sum_replicate_nat, Nat.mul_comm]
        exact short
      all_goals
        rw [failed] at same
        cases same
    all_goals cases same
  · rw [unsupported] at applied
    cases applied

/-- The value comes from `count` leaves, of which there is at least one, and has no more characters
than they have with `longest` each.
-/
structure IsWithin (longest count : Nat) (v : Value) : Prop where
  leaf : 0 < count
  length : v.textLength ≤ count * longest

end Value

namespace Scope

open Value (IsWithin)

variable {scope : Scope}

theorem invoke_refused (restricted : scope.restricted = true) (name : Text) (op : Operation)
    (args : List Value)
    : scope.invoke name op args = throw (.refused name) := by
  rw [invoke, if_pos restricted]

/-- The lengths of texts are an invariant: only joining and repeating make longer ones. -/
theorem invariant_textLength (restricted : scope.restricted = true) {longest : Nat}
    (enough : Value.maxRepetition ≤ longest)
    : scope.Invariant (IsWithin longest) (fun _ => True) where
  mono := fun fewer within =>
    ⟨within.leaf.trans_le fewer, within.length.trans (Nat.mul_le_mul_right longest fewer)⟩
  truth := fun b within => ⟨within.leaf, Nat.zero_le _⟩
  unary := fun op within applied =>
    ⟨within.leaf, (Value.textLength_number (Value.isNumeric_unary applied).1).trans_le (Nat.zero_le _)⟩
  binary := by
    intro m n v w u op left right applied
    refine ⟨Nat.add_pos_left left.leaf n, ?_⟩
    rcases Value.textLength_apply applied with joined | repeated
    · rw [Nat.add_mul]
      exact joined.trans (Nat.add_le_add left.length right.length)
    · exact (repeated.trans enough).trans
        (Nat.le_mul_of_pos_left longest (Nat.add_pos_left left.leaf n))
  call := by
    intro name n args _
    unfold callName
    split
    · rw [invoke_refused restricted]
      exact .fails trivial
    · rw [invoke_refused restricted]
      exact .fails trivial
    · exact .fails trivial
  notUnary := fun _ _ _ => trivial
  notBinary := fun _ _ _ _ => trivial
  notComparable := fun _ _ _ _ => trivial
  tooDeep := fun _ => trivial
  constant := fun _ => trivial
  surrogates := trivial
  operator := fun _ => trivial
  comparison := fun _ => trivial
  plainCall := trivial
  element := fun _ => trivial

/-- What a restricted scope supplies under a name is a binding or an environment variable, or no
text.
-/
theorem supplies_within (restricted : scope.restricted = true) {longest : Nat} {name : Text}
    (bound : scope.longestBinding ≤ longest) (defined : scope.variableLength name ≤ longest)
    : scope.Supplies (IsWithin longest 1) (fun _ => True) name where
  bound := by
    intro v found
    refine ⟨Nat.one_pos, ?_⟩
    rw [Nat.one_mul]
    exact (textLength_le_longestBinding found).trans bound
  defined := by
    intro key t marked found
    refine ⟨Nat.one_pos, ?_⟩
    rw [Nat.one_mul]
    exact (variableLength_of_get? marked found).ge.trans defined
  truth := fun _ => ⟨Nat.one_pos, Nat.zero_le _⟩
  null := ⟨Nat.one_pos, Nat.zero_le _⟩
  invoked := by
    intro op _ args
    rw [invoke_refused restricted]
    exact .fails trivial
  undefined := trivial
  unknown := trivial

/-- An expression in a restricted scope results in a text that is linear in its leaves.
Witness: the lengths of texts are an invariant, which every leaf keeps by the choice of the longest.
-/
theorem eval_within (restricted : scope.restricted = true) {longest : Nat} {e : Expr}
    (texts : scope.longestText e ≤ longest) (defined : scope.longestVariable e ≤ longest)
    (source : Text) (depth : Nat)
    : (scope.eval source depth e).Ensures (IsWithin longest e.leaves.length) (fun _ => True) := by
  obtain ⟨enough, constants, bound⟩
      : Value.maxRepetition ≤ longest ∧ e.longestConstant ≤ longest
        ∧ scope.longestBinding ≤ longest := by
    simpa only [longestText, Nat.max_le] using texts
  refine (invariant_textLength restricted enough).eval source depth fun leaf member => ?_
  cases leaf with
  | constant v =>
      refine ⟨Nat.one_pos, ?_⟩
      rw [Nat.one_mul]
      exact (Expr.constantLength_le_longestConstant member).trans constants
  | name id =>
      have named : scope.variableLength id ≤ scope.longestVariable e :=
        variableLength_le_longestVariable (Expr.mem_names member)
      exact (supplies_within restricted bound (named.trans defined)).nameValue
  | _ => trivial

/-- No expression blows up texts: in a restricted scope, a text that an expression results in has at
most as many characters as the expression has leaves, times the longest text that it starts from,
or the bound of repetition if that is more. Names without the mark of environment variables, like
all names that are identifiers, start from bindings only.
-/
theorem eval_textLength_le (restricted : scope.restricted = true) {source : Text} {depth : Nat}
    {e : Expr} {calls after : Calls} {t : Text}
    (result : scope.eval source depth e calls = (.ok (.text t), after))
    : t.length ≤ e.leaves.length * max (scope.longestText e) (scope.longestVariable e)
      ∧ ((∀ name ∈ e.names, ¬ Piece.environmentMark <+: name)
        → t.length ≤ e.leaves.length * scope.longestText e) := by
  constructor
  · exact ((eval_within restricted (Nat.le_max_left _ _) (Nat.le_max_right _ _) source depth).result
      result).length
  · intro plain
    refine ((eval_within restricted (Nat.le_refl _) ?_ source depth).result result).length
    rw [longestVariable_eq_zero plain]
    exact Nat.zero_le _

/-- `a * 3 + a` with four characters for each of its three leaves at most, and eight in fact. -/
theorem eval_textLength_le_joined
    : let scope : Scope :=
        { bindings := [("a".toList, .value (.text "ab".toList))], restricted := true }
      let e : Expr :=
        .binary .add (.binary .mul (.name "a".toList) (.constant (.int 3))) (.name "a".toList)
      scope.eval "a * 3 + a".toList 3 e [] = (.ok (.text "abababab".toList), [])
        ∧ "abababab".toList.length ≤ e.leaves.length * scope.longestText e := by
  intro scope e
  have result : scope.eval "a * 3 + a".toList 3 e [] = (.ok (.text "abababab".toList), []) :=
    Computation.eq_ok_iff.mpr (by decide +kernel)
  exact ⟨result, (eval_textLength_le rfl result).2 (by decide +kernel)⟩

end Scope

end LiveIni
