import LiveIni.Proofs.Restriction.Evaluation
import Mathlib.Data.List.Infix

/-!
Strict scopes beside lenient ones. Both do the same up to the first reference to nothing that they come
to: there the lenient scope goes on with null, and the strict one stops. References that they never come
to make no difference, whatever they are to.
-/

namespace LiveIni

/-- The scope in which every reference must be bound. -/
def Scope.strictly (scope : Scope) : Scope :=
  { scope with strict := true }

/-- The scope in which a reference to nothing is null. -/
def Scope.leniently (scope : Scope) : Scope :=
  { scope with strict := false }

/-- The strict run does just what the lenient one does, or it stops at a reference that the scope lacks,
and has made the first of the calls that the lenient one makes. The lenient one goes on from the calls
before it.
-/
structure Hardens (scope : Scope) {α : Type} (strict lenient : Run α) : Prop where
  agrees : ∀ calls, strict calls = lenient calls
    ∨ ∃ name made, scope.Lacks name ∧ strict calls = (.error (.undefined name), made)
      ∧ made <+: (lenient calls).2
  goesOn : ∀ calls, calls <+: (lenient calls).2

namespace Hardens

variable {scope : Scope} {α β : Type}

/-- A run that leaves the calls as they are hardens itself. -/
theorem refl {run : Run α} (keeps : ∀ calls, (run calls).2 = calls) : Hardens scope run run where
  agrees _ := Or.inl rfl
  goesOn calls := by
    rw [keeps]

/-- What follows a run goes on from its calls. -/
theorem prefix_bind {first : Run α} {next : α → Run β}
    (nextGoesOn : ∀ a calls, calls <+: (next a calls).2) (calls : Calls)
    : (first calls).2 <+: ((first >>= next) calls).2 := by
  rcases ran : first calls with ⟨result, after⟩
  cases result with
  | error fault =>
      rw [Computation.bind_of_error ran]
  | ok a =>
      rw [Computation.bind_of_ok ran]
      exact nextGoesOn a after

/-- Going on with runs of which one hardens the other keeps the relation.
Witness: a strict run that has stopped does not go on, while the lenient one only adds calls.
-/
theorem bind {strict lenient : Run α} {strictNext lenientNext : α → Run β}
    (first : Hardens scope strict lenient)
    (steps : ∀ a, Hardens scope (strictNext a) (lenientNext a))
    : Hardens scope (strict >>= strictNext) (lenient >>= lenientNext) where
  agrees calls := by
    have onwards : (lenient calls).2 <+: ((lenient >>= lenientNext) calls).2 :=
      prefix_bind (fun a => (steps a).goesOn) calls
    rcases first.agrees calls with same | ⟨name, made, lacks, stopped, before⟩
    · rcases ran : lenient calls with ⟨result, after⟩
      rw [ran] at same
      cases result with
      | error fault =>
          left
          rw [Computation.bind_of_error same, Computation.bind_of_error ran]
      | ok a =>
          rw [Computation.bind_of_ok same, Computation.bind_of_ok ran]
          exact (steps a).agrees after
    · right
      exact ⟨name, made, lacks, Computation.bind_of_error stopped, before.trans onwards⟩
  goesOn calls := (first.goesOn calls).trans (prefix_bind (fun a => (steps a).goesOn) calls)

theorem congruent (scope : Scope) : Run.Congruent (@Hardens scope) where
  pure _ := refl fun _ => rfl
  throw _ := refl fun _ => rfl
  bind := bind

/-- Being strict makes no difference to an invocation, and stops at a reference to nothing. -/
theorem alongside (scope : Scope)
    : Scope.Alongside (@Hardens scope) scope.strictly scope.leniently where
  bindings := rfl
  operations := rfl
  environment := rfl
  names := rfl
  limits := rfl
  invoke name op args :=
    { agrees := fun _ => Or.inl rfl
      goesOn := fun calls => by
        have step := Lockstep.invoke scope.leniently name op args
        obtain ⟨more, extended⟩ := step.extends_calls calls
        exact ⟨more, extended.symm⟩ }
  unbound name lacks :=
    { agrees := fun calls => Or.inr ⟨name, calls, lacks, rfl, List.prefix_rfl⟩
      goesOn := fun _ => List.prefix_rfl }

end Hardens

/-- What a text is replaced by in a strict scope it is replaced by in the lenient one, with the same
calls in the same order. What it is replaced by in the lenient scope it is replaced by in the strict
one, with the same calls in the same order, unless the strict one stops at a reference that the scope
lacks. Then it has made the first of those calls.
Witness: the scopes differ only where a reference is to nothing.
-/
theorem Scope.strict_substitute_only_refuses (scope : Scope) (t : Text) (calls : Calls)
    : (∀ {s after}, scope.strictly.substitute t calls = (.ok s, after)
        → scope.leniently.substitute t calls = (.ok s, after))
      ∧ ∀ {s after}, scope.leniently.substitute t calls = (.ok s, after)
        → scope.strictly.substitute t calls = (.ok s, after)
          ∨ ∃ name made, scope.Lacks name
            ∧ scope.strictly.substitute t calls = (.error (.undefined name), made)
            ∧ made <+: after := by
  have hardens := (Hardens.alongside scope).substitute (Hardens.congruent scope) t
  constructor
  · intro s after ran
    rcases hardens.agrees calls with same | ⟨name, made, _, stopped, _⟩
    · exact same.symm.trans ran
    · cases stopped.symm.trans ran
  · intro s after ran
    rcases hardens.agrees calls with same | ⟨name, made, lacks, stopped, before⟩
    · exact .inl (same.trans ran)
    · rw [ran] at before
      exact .inr ⟨name, made, lacks, stopped, before⟩

/-- An unbound name in a branch that is not taken does no harm. One that is come to is nothing in the
lenient scope, and stops the strict one after the call before it.
-/
theorem Scope.strict_substitute_only_refuses_untakenBranch
    : let scope : Scope := { operations := [(['n'], .counter)] }
      let untaken := "$(n() if true or x else x + 1)".toList
      let taken := "$(n())$x$(n())".toList
      scope.leniently.substitute untaken [] = (.ok ['1'], [⟨['n'], []⟩])
        ∧ scope.leniently.substitute taken [] = (.ok "12".toList, [⟨['n'], []⟩, ⟨['n'], []⟩])
        ∧ ∃ name made, scope.Lacks name
          ∧ scope.strictly.substitute taken [] = (.error (.undefined name), made)
          ∧ made <+: [⟨['n'], []⟩, ⟨['n'], []⟩] := by
  intro scope untaken taken
  have strictRan : scope.strictly.substitute untaken [] = (.ok ['1'], [⟨['n'], []⟩]) :=
    Prod.ext (by decide +kernel) (by decide +kernel)
  have lenientRan : scope.leniently.substitute taken []
      = (.ok "12".toList, [⟨['n'], []⟩, ⟨['n'], []⟩]) :=
    Prod.ext (by decide +kernel) (by decide +kernel)
  have stopped : (scope.strictly.substitute taken []).1 ≠ .ok "12".toList := by decide +kernel
  refine ⟨(scope.strict_substitute_only_refuses untaken []).1 strictRan, lenientRan, ?_⟩
  rcases (scope.strict_substitute_only_refuses taken []).2 lenientRan with same | stops
  · exact absurd (congrArg Prod.fst same) stopped
  · exact stops

end LiveIni
