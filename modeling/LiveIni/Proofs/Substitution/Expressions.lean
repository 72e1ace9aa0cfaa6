import LiveIni.Proofs.Computation
import LiveIni.Proofs.Expression.Outcome
import LiveIni.Proofs.Substitution.Lexemes
import LiveIni.Proofs.Substitution.Segments

/-!
Texts with an expression in them. What the search for a closing parenthesis takes for the expression
is what the grammar takes for one, unless a comment or a quotation in triple quotes leads the search
astray.
-/

namespace LiveIni

open Search (Passes PassesHidden)

/-- An expression that the search passes shows its own end. -/
theorem Piece.delimits_expression {e : Text} (passes : Passes e)
    : Delimits ('$' :: '(' :: (e ++ [')'])) [expression e] := by
  refine delimits_of_read fun total rest => ?_
  have found := (Search.passes_iff_expressionLength? rest).mp passes
  simp [read, afterDollar, found]

namespace Scope

variable {scope : Scope} {e p q : Text}

/-- The text is one that evaluation does not refuse as malformed: it is blank, or an expression. -/
def Accepts (scope : Scope) (e : Text) : Prop :=
  Text.strip e = [] ∨ (Expr.parse? scope.names (Text.strip e)).isSome = true

/-- The search passes what is accepted. -/
theorem Accepts.passes (accepted : scope.Accepts e) (visible : PassesHidden (Text.strip e))
    : Passes e := by
  refine Search.passes_of_strip ?_
  rcases accepted with blank | isExpression
  · rw [blank]
    exact Search.passes_nil
  · obtain ⟨tree, parsed⟩ := Option.isSome_iff_exists.mp isExpression
    exact Search.passes_of_parse? parsed visible

/-- What has a value is accepted. -/
theorem accepts_of_evaluate {calls after : Calls} {v : Value}
    (evaluated : scope.evaluate e calls = (.ok v, after))
    : scope.Accepts e := by
  have outcome := scope.evaluates e
  generalize scope.evaluate e = run at evaluated outcome
  cases outcome with
  | blank empty => exact .inl empty
  | expression _ _ parsed => exact .inr (Option.isSome_of_eq_some parsed)
  | _ => cases evaluated

/-- An accepted expression is evaluated where it stands, and nothing else is changed. -/
theorem substitute_accepted (accepted : scope.Accepts e) (visible : PassesHidden (Text.strip e))
    (before : ∀ c ∈ p, c ≠ '$' ∧ c ≠ '\\') (behind : ∀ c ∈ q, c ≠ '$' ∧ c ≠ '\\')
    : scope.substitute (p ++ '$' :: '(' :: (e ++ ')' :: q))
      = (do return p ++ (← scope.render (← scope.evaluate e)) ++ q) := by
  have shown := Piece.delimits_expression (accepted.passes visible)
  have whole := ((Piece.delimits_run before).append shown).append (Piece.delimits_run behind)
  have cut : p ++ '$' :: '(' :: (e ++ ')' :: q) = p ++ '$' :: '(' :: (e ++ [')']) ++ q := by simp
  have replaced : scope.replaced [.expression e] = scope.evaluate e >>= scope.render := by
    simp [Scope.replaced, replace]
  change scope.replaced (Piece.ofText _) = _
  rw [cut, whole.ofText_eq, replaced_append, replaced_append, replaced_run, replaced_run, replaced]
  simp only [pure_bind, bind_assoc]

/-- In every scope, a text with an accepted expression in it is substituted by evaluating that
expression and putting the text of its value in its place, with the same calls and the same faults,
if the search for the closing parenthesis passes each of its comments and quotations in triple
quotes; where there are none, it always does. So an expression that has a value, from whatever
calls, is replaced by the text of that value, and what stands around it is kept.
Witness: the search passes what the grammar accepts, so that the expression shows its own end.
-/
theorem substitute_expression (scope : Scope) (visible : PassesHidden (Text.strip e))
    (before : ∀ c ∈ p, c ≠ '$' ∧ c ≠ '\\') (behind : ∀ c ∈ q, c ≠ '$' ∧ c ≠ '\\')
    : let t := p ++ '$' :: '(' :: (e ++ ')' :: q)
      (scope.Accepts e
          → scope.substitute t = do return p ++ (← scope.render (← scope.evaluate e)) ++ q)
        ∧ ∀ {calls v r after}, scope.evaluate e calls = (.ok v, after) → scope.text? v = some r
          → scope.substitute t calls = (.ok (p ++ r ++ q), after) := by
  intro t
  refine ⟨fun accepted => substitute_accepted accepted visible before behind, ?_⟩
  intro calls v r after evaluated written
  rw [substitute_accepted (accepts_of_evaluate evaluated) visible before behind,
    Computation.bind_of_ok evaluated, render_of_text? written]
  rfl

/-- A parenthesis in a quotation is none, even next to a character that is named; the search passes
a quotation in triple quotes with another quote in it, and a comment with parentheses.
-/
theorem substitute_expression_comment
    : let scope : Scope := { names := fun name => if name = "COLON".toList then some ':' else none }
      let e := "'\\N\x7bCOLON\x7d(' + \"\"\"b')\"\"\" # (c)".toList
      scope.evaluate e [] = (.ok (.text ":(b')".toList), [])
        ∧ PassesHidden (Text.strip e)
        ∧ scope.substitute (['a'] ++ '$' :: '(' :: (e ++ ')' :: ['d'])) []
          = (.ok "a:(b')d".toList, []) := by
  intro scope e
  have evaluated : scope.evaluate e [] = (.ok (.text ":(b')".toList), []) :=
    Computation.eq_ok_iff.mpr (by decide +kernel)
  have visible : PassesHidden (Text.strip e) := by decide +kernel
  exact ⟨evaluated, visible,
    (substitute_expression scope visible (by simp) (by simp)).2 evaluated rfl⟩

/-- The search ends at a parenthesis in a comment, and takes a quote in triple quotes for the end of
the quotation: expressions that have a value are cut off there.
-/
theorem substitute_cuts_comment
    : let scope : Scope := {}
      scope.evaluate "1 # )".toList [] = (.ok (.int 1), [])
        ∧ scope.substitute "$(1 # ))".toList [] = (.ok "1)".toList, [])
        ∧ scope.evaluate "\"\"\"a\"b\"\"\"".toList [] = (.ok (.text "a\"b".toList), [])
        ∧ (scope.substitute "$(\"\"\"a\"b\"\"\")".toList []).1.toOption = none := by
  refine ⟨Computation.eq_ok_iff.mpr ?_, Computation.eq_ok_iff.mpr ?_,
    Computation.eq_ok_iff.mpr ?_, ?_⟩ <;> decide +kernel

end Scope

end LiveIni
