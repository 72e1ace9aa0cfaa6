import LiveIni.Expression.Evaluation

/-!
What the evaluation of a text comes to before any operand is looked at, and what the text of its
value comes to: a blank text is null, and all others must be read and must be well formed; the text
is that of the value, unless it is too long.
-/

namespace LiveIni.Scope

open Number

/-- The run that evaluates a text, by what becomes of the text when it is read. -/
inductive Evaluates (scope : Scope) (t : Text) : Run Value → Prop
  | blank (empty : Text.strip t = []) : Evaluates scope t (pure .null)
  | unread {failure} (filled : Text.strip t ≠ [])
    (gaveUp : scope.limits.reader (Text.strip t) = some failure)
    : Evaluates scope t (throw (.unread failure))
  | nullCharacter (whole : scope.limits.reader (Text.strip t) = none)
    (null : '\x00' ∈ Text.strip t)
    : Evaluates scope t (throw .nullCharacter)
  | expression {e} (whole : scope.limits.reader (Text.strip t) = none)
    (clean : '\x00' ∉ Text.strip t) (parsed : Expr.parse? scope.names (Text.strip t) = some e)
    : Evaluates scope t (scope.eval t scope.limits.depth e)
  | invalid (whole : scope.limits.reader (Text.strip t) = none) (clean : '\x00' ∉ Text.strip t)
    (malformed : Expr.parse? scope.names (Text.strip t) = none)
    : Evaluates scope t (throw (.invalidExpression t))

/-- One of these is what is run. -/
theorem evaluates (scope : Scope) (t : Text) : scope.Evaluates t (scope.evaluate t) := by
  unfold evaluate
  by_cases empty : Text.strip t = []
  · rw [empty]
    exact .blank empty
  · rw [if_neg (by simpa using empty)]
    cases given : scope.limits.reader (Text.strip t) with
    | some failure => exact .unread empty given
    | none =>
        by_cases null : '\x00' ∈ Text.strip t
        · rw [if_pos (List.contains_iff_mem.mpr null)]
          exact .nullCharacter given null
        · rw [if_neg (by simpa using null)]
          cases parsed : Expr.parse? scope.names (Text.strip t) with
          | some e => exact .expression given null parsed
          | none => exact .invalid given null parsed

variable {scope : Scope} {t : Text} {v : Value}

theorem evaluate_of_unread {failure : ReaderFailure} (filled : Text.strip t ≠ [])
    (gaveUp : scope.limits.reader (Text.strip t) = some failure)
    : scope.evaluate t = throw (.unread failure) := by
  unfold evaluate
  rw [if_neg (by simpa using filled), gaveUp]

theorem evaluate_of_nullCharacter (whole : scope.limits.reader (Text.strip t) = none)
    (null : '\x00' ∈ Text.strip t)
    : scope.evaluate t = throw .nullCharacter := by
  have filled : Text.strip t ≠ [] := List.ne_nil_of_mem null
  unfold evaluate
  rw [if_neg (by simpa using filled), whole]
  exact if_pos (List.contains_iff_mem.mpr null)

theorem text?_int (n : Int) : scope.text? (.int n) = Value.renderInt? n :=
  rfl

theorem text?_decimal (d : ExtendedDecimal)
    : scope.text? (.decimal d) = if scope.limits.holds d then some d.positional else none :=
  rfl

/-- Only integers with too many digits and decimals with too many places have no text. -/
theorem text?_eq_none_iff
    : scope.text? v = none
      ↔ (∃ n, v = .int n ∧ tenTo Value.maxIntegerDigits ≤ n.natAbs)
        ∨ ∃ d, v = .decimal d ∧ scope.limits.holds d = false := by
  cases v with
  | int n =>
      rw [text?_int, Value.renderInt?]
      by_cases short : n.natAbs < tenTo Value.maxIntegerDigits
      · rw [if_pos short]
        refine iff_of_false nofun ?_
        rintro (⟨m, ⟨⟩, long⟩ | ⟨d, ⟨⟩, -⟩)
        exact absurd short (Nat.not_lt.mpr long)
      · rw [if_neg short]
        exact iff_of_true rfl (.inl ⟨n, rfl, Nat.not_lt.mp short⟩)
  | decimal d =>
      rw [text?_decimal]
      cases held : scope.limits.holds d with
      | true =>
          refine iff_of_false nofun ?_
          rintro (⟨n, ⟨⟩, -⟩ | ⟨c, ⟨⟩, large⟩)
          cases held.symm.trans large
      | false => exact iff_of_true rfl (.inr ⟨d, rfl, held⟩)
  | _ =>
      refine iff_of_false nofun ?_
      rintro (⟨n, ⟨⟩, -⟩ | ⟨d, ⟨⟩, -⟩)

theorem render_of_text? (written : scope.text? v = some t) : scope.render v = pure t := by
  unfold render
  rw [written]

/-- A value without a text fails to be written, and leaves the calls. -/
theorem render_eq_error_iff {calls after : Calls} {f : Fault}
    : scope.render v calls = (.error f, after)
      ↔ after = calls
        ∧ ((f = .digitLimit ∧ ∃ n, v = .int n ∧ tenTo Value.maxIntegerDigits ≤ n.natAbs)
          ∨ f = .outOfMemory ∧ ∃ d, v = .decimal d ∧ scope.limits.holds d = false) := by
  cases written : scope.text? v with
  | some t =>
      have missing : ¬ scope.text? v = none := by
        rw [written]
        exact nofun
      rw [text?_eq_none_iff] at missing
      rw [render_of_text? written]
      refine iff_of_false nofun ?_
      rintro ⟨-, ⟨-, long⟩ | ⟨-, large⟩⟩
      · exact missing (.inl long)
      · exact missing (.inr large)
  | none =>
      unfold render
      rw [written]
      rcases text?_eq_none_iff.mp written with ⟨n, rfl, long⟩ | ⟨d, rfl, large⟩
      · constructor
        · rintro ⟨⟩
          exact ⟨rfl, .inl ⟨rfl, n, rfl, long⟩⟩
        · rintro ⟨rfl, ⟨rfl, -⟩ | ⟨-, d, ⟨⟩, -⟩⟩
          rfl
      · constructor
        · rintro ⟨⟩
          exact ⟨rfl, .inr ⟨rfl, d, rfl, large⟩⟩
        · rintro ⟨rfl, ⟨-, n, ⟨⟩, -⟩ | ⟨rfl, -⟩⟩
          rfl

end LiveIni.Scope
