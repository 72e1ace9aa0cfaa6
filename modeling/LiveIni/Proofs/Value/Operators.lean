import LiveIni.Expression.Evaluation

/-!
What the operators make of the sorts of their operands. Numbers give numbers, and decimals, with
the faults of their arithmetic, come from decimals only. Texts are joined and repeated.
-/

namespace LiveIni.Value

def isDecimal (v : Value) : Bool :=
  v.numeric?.any Numeric.isDecimal

theorem isDecimal_eq {v : Value} {a : Numeric} (number : v.numeric? = some a)
    : v.isDecimal = a.isDecimal := by
  rw [isDecimal, number, Option.any_some]

-----------------------------------------------------------------------------------------
-- Numbers
-----------------------------------------------------------------------------------------

/-- The result is a number or a fault, and neither a decimal nor a fault of decimal arithmetic
unless `decimals` take part.
-/
def IsNumeric (decimals : Prop) : Except OperandFault Value → Prop
  | .ok v => v.numeric?.isSome ∧ (v.isDecimal → decimals)
  | .error f => ∀ signal, f = .decimal signal → decimals

namespace IsNumeric

variable {decimals : Prop} {op : BinaryOp}

theorem ite {c : Prop} [Decidable c] {yes no : Except OperandFault Value}
    (left : IsNumeric decimals yes) (right : IsNumeric decimals no)
    : IsNumeric decimals (if c then yes else no) := by
  split <;> assumption

theorem int (n : Int) : IsNumeric decimals (.ok (.int n)) :=
  ⟨rfl, nofun⟩

theorem double (x : Number.Double) : IsNumeric decimals (.ok (.double x)) :=
  ⟨rfl, nofun⟩

theorem zeroDivision (message : String) : IsNumeric decimals (.error (.zeroDivision message)) :=
  nofun

theorem divInts (m n : Int) : IsNumeric decimals (Value.divInts m n) := by
  refine ite (zeroDivision _) ?_
  split
  · nofun
  · exact double _

theorem applyInts (m n : Int) : IsNumeric decimals (Value.applyInts op m n) := by
  cases op with
  | add => exact int _
  | sub => exact int _
  | mul => exact int _
  | div => exact divInts m n
  | floorDiv => exact ite (zeroDivision _) (int _)
  | mod => exact ite (zeroDivision _) (int _)

theorem applyDoubles (x y : Number.Double) : IsNumeric decimals (Value.applyDoubles op x y) := by
  cases op with
  | add => exact double _
  | sub => exact double _
  | mul => exact double _
  | div => exact ite (zeroDivision _) (double _)
  | floorDiv => exact ite (zeroDivision _) (double _)
  | mod => exact ite (zeroDivision _) (double _)

/-- An integer that is no double is a fault like any other. -/
theorem ofInt {next : Number.Double → Except OperandFault Value} (n : Int)
    (all : ∀ x, IsNumeric decimals (next x))
    : IsNumeric decimals (intToDouble n >>= next) := by
  unfold intToDouble
  split
  · nofun
  · exact all _

theorem applyDecimals (x y : Number.ExtendedDecimal) (holds : decimals)
    : IsNumeric decimals (Value.applyDecimals op x y) := by
  unfold Value.applyDecimals
  dsimp only
  split
  · exact ⟨rfl, fun _ => holds⟩
  · exact fun _ _ => holds

end IsNumeric

/-- The operators on numbers result in numbers, and in decimals only if one of the operands is one.
-/
theorem isNumeric_applyNumbers {op : BinaryOp} {a b : Numeric} {result : Except OperandFault Value}
    (applied : applyNumbers? op a b = some result)
    : IsNumeric (a.isDecimal ∨ b.isDecimal) result := by
  unfold applyNumbers? at applied
  split at applied <;> cases applied
  · exact .applyInts _ _
  · exact .applyDoubles _ _
  · exact .ofInt _ fun _ => .applyDoubles _ _
  · exact .ofInt _ fun _ => .applyDoubles _ _
  · exact .applyDecimals _ _ (Or.inl rfl)
  · exact .applyDecimals _ _ (Or.inr rfl)
  · exact .applyDecimals _ _ (Or.inl rfl)

-----------------------------------------------------------------------------------------
-- All values
-----------------------------------------------------------------------------------------

/-- An operator is one on numbers or one on texts, or has no meaning for its operands. -/
theorem apply_cases (op : BinaryOp) (left right : Value)
    : (∃ a b, left.numeric? = some a ∧ right.numeric? = some b
        ∧ applyNumbers? op a b = some (left.apply op right))
      ∨ applyTexts? op left right = some (left.apply op right)
      ∨ left.apply op right = .error (.unsupported op left.typeName right.typeName) := by
  unfold apply
  dsimp only
  cases numbers : (do applyNumbers? op (← left.numeric?) (← right.numeric?)) with
  | some result =>
      obtain ⟨a, isLeft, numbers⟩ := Option.bind_eq_some_iff.mp numbers
      obtain ⟨b, isRight, numbers⟩ := Option.bind_eq_some_iff.mp numbers
      exact Or.inl ⟨a, b, isLeft, isRight, numbers⟩
  | none =>
      cases texts : applyTexts? op left right with
      | some result => exact Or.inr (Or.inl rfl)
      | none => exact Or.inr (Or.inr rfl)

/-- The operators on texts result in texts or fail as such: two texts are joined, or one is
repeated.
-/
theorem applyTexts?_cases {op : BinaryOp} {left right : Value} {result : Except OperandFault Value}
    (applied : applyTexts? op left right = some result)
    : (∃ s t, left = .text s ∧ right = .text t ∧ result = .ok (.text (s ++ t)))
      ∨ (∃ t count, result = repeatText t count)
      ∨ result = .error .formatting
      ∨ ∃ type, result = .error (.joinedWith type) := by
  unfold applyTexts? at applied
  split at applied <;> cases applied
  · exact Or.inr (Or.inr (Or.inl rfl))
  · exact Or.inl ⟨_, _, rfl, rfl, rfl⟩
  · exact Or.inr (Or.inr (Or.inr ⟨_, rfl⟩))
  · exact Or.inr (Or.inl ⟨_, _, rfl⟩)
  · exact Or.inr (Or.inl ⟨_, _, rfl⟩)

/-- A repetition results in a text within the bound, or fails by the count. -/
theorem repeatText_cases (t : Text) (count : Value)
    : (∃ n, t.length * n ≤ maxRepetition
        ∧ repeatText t count = .ok (.text (List.replicate n t).flatten))
      ∨ repeatText t count = .error .repetitionTooLong
      ∨ repeatText t count = .error .repetitionCount
      ∨ repeatText t count = .error (.repeatedBy count.typeName) := by
  unfold repeatText
  split
  · next n number =>
      by_cases long : maxRepetition < t.length * n.toNat
      · rw [if_pos long]
        exact Or.inr (Or.inl rfl)
      · rw [if_neg long]
        split
        · exact Or.inr (Or.inr (Or.inl rfl))
        · exact Or.inl ⟨n.toNat, Nat.le_of_not_lt long, rfl⟩
  · exact Or.inr (Or.inr (Or.inr rfl))

/-- Decimals, and the faults of their arithmetic, come only from operands of which one is a decimal.
-/
theorem decimals_of_apply (op : BinaryOp) (left right : Value)
    : (∀ v, left.apply op right = .ok v → v.isDecimal → left.isDecimal ∨ right.isDecimal)
      ∧ ∀ signal, left.apply op right = .error (.decimal signal)
          → left.isDecimal ∨ right.isDecimal := by
  rcases apply_cases op left right with ⟨a, b, isLeft, isRight, numbers⟩ | texts | unsupported
  · have numeric := isNumeric_applyNumbers numbers
    rw [← isDecimal_eq isLeft, ← isDecimal_eq isRight] at numeric
    constructor
    · intro v ok
      rw [ok] at numeric
      exact numeric.2
    · intro signal error
      rw [error] at numeric
      exact numeric signal rfl
  · rcases applyTexts?_cases texts with ⟨s, t, -, -, same⟩ | ⟨t, count, same⟩ | same | ⟨type, same⟩
    · rw [same]
      exact ⟨by rintro v ⟨⟩ ⟨⟩, nofun⟩
    · rw [same]
      rcases repeatText_cases t count with ⟨n, _, same⟩ | same | same | same <;> rw [same]
      · exact ⟨by rintro v ⟨⟩ ⟨⟩, nofun⟩
      all_goals exact ⟨nofun, nofun⟩
    all_goals
      rw [same]
      exact ⟨nofun, nofun⟩
  · rw [unsupported]
    exact ⟨nofun, nofun⟩

/-- Only decimals can fail to be compared by the rules of their arithmetic. -/
theorem decimals_of_compareBy {op : Comparison} {left right : Value} {signal : Number.DecimalSignal}
    (failed : left.compareBy op right = .error (.decimal signal))
    : left.isDecimal ∨ right.isDecimal := by
  unfold compareBy at failed
  split at failed
  · next a b isLeft isRight =>
      rw [isDecimal_eq isLeft, isDecimal_eq isRight]
      have signaling : ∀ c : Numeric, c.isSignaling → c.isDecimal := by
        rintro (n | x | d) holds
        · exact holds
        · exact holds
        · rfl
      unfold Numeric.compareBy at failed
      split at failed
      · cases failed
      · split at failed
        · next refused =>
            simp only [Bool.or_eq_true, Bool.and_eq_true] at refused
            rcases refused with (left | right) | ⟨either, _⟩
            · exact Or.inl (signaling a left)
            · exact Or.inr (signaling b right)
            · exact either
        · cases failed
  · split at failed
    · cases failed
    · split at failed <;> cases failed

/-- The operators with one operand result in integers, doubles and truth values. -/
theorem isNumeric_unary {op : UnaryOp} {v w : Value} (applied : op.apply v = .ok w)
    : w.numeric?.isSome ∧ w.isDecimal = false := by
  unfold UnaryOp.apply at applied
  split at applied <;> cases applied <;> exact ⟨rfl, rfl⟩

end LiveIni.Value
