import LiveIni.Proofs.Restriction.Lockstep

/-!
References, expressions and whole texts in a restricted scope, in step with the scope itself.
Both read the same bindings, operations and environment in the same order, so that they differ
in nothing but what happens when an operation is to be invoked.
-/

namespace LiveIni

namespace Scope

@[simp] theorem restrict_strict (scope : Scope) : scope.restrict.strict = scope.strict :=
  rfl

@[simp] theorem restrict_restrict (scope : Scope) : scope.restrict.restrict = scope.restrict :=
  rfl

end Scope

namespace Lockstep

variable (scope : Scope)

/-- Outside of a restricted scope an invocation is recorded before the operation runs. -/
theorem callsAfter_invoke {scope : Scope} (free : scope.restricted = false) (name : Text)
    (op : Operation) (args : List Value) (calls : Calls)
    : (scope.invoke name op args).CallsAfter calls := by
  let made : Calls := calls ++ [⟨name, args⟩]
  have recorded
      : (modify (· ++ [⟨name, args⟩]) : Run PUnit) calls = (.ok PUnit.unit, made) := rfl
  have seen : (get : Run Calls) made = (.ok made, made) := rfl
  refine ⟨⟨name, args⟩, [], ?_⟩
  rw [Scope.invoke, free, if_neg Bool.false_ne_true, Computation.bind_of_ok recorded,
    Computation.bind_of_ok seen]
  cases op.run (made.count name) args with
  | ok v => rfl
  | error failure => cases failure <;> rfl

/-- An invocation is refused in the restricted scope, and recorded in a free one. -/
theorem invoke (name : Text) (op : Operation) (args : List Value)
    : Lockstep (scope.restrict.invoke name op args) (scope.invoke name op args) := by
  refine ⟨.error (.refused name), fun _ => rfl, fun calls => ?_⟩
  cases restricted : scope.restricted with
  | true =>
      have same : scope.invoke name op args calls = (.error (.refused name), calls) := by
        unfold Scope.invoke
        rw [restricted]
        rfl
      exact Or.inl same
  | false => exact Or.inr ⟨⟨name, rfl⟩, callsAfter_invoke restricted name op args calls⟩

/-- A reference to nothing is null or undefined in both scopes. -/
theorem unbound (name : Text) : Lockstep (scope.restrict.unbound name) (scope.unbound name) := by
  rw [Scope.unbound, Scope.unbound, Scope.restrict_strict]
  cases scope.strict with
  | true => exact throw _
  | false => exact pure _

/-- Both scopes have the same names, so that they differ in nothing but their invocations. -/
theorem alongside : Scope.Alongside @Lockstep scope.restrict scope where
  bindings := rfl
  operations := rfl
  environment := rfl
  names := rfl
  limits := rfl
  invoke := invoke scope
  unbound name _ := unbound scope name

theorem evaluate (source : Text)
    : Lockstep (scope.restrict.evaluate source) (scope.evaluate source) :=
  (alongside scope).evaluate congruent source

/-- A text is substituted in step: its pieces do not depend on the scope. -/
theorem substitute (t : Text)
    : Lockstep (scope.restrict.substitute t) (scope.substitute t) :=
  (alongside scope).substitute congruent t

end Lockstep

end LiveIni
