import LiveIni.Proofs.Expression.SideBySide

/-!
Runs in a restricted scope, beside the same runs in the scope itself. The restricted run never
makes a call, and its result does not depend on the calls made before. The other run does just
the same, unless it makes a call: then the restricted one is refused at that point.
-/

namespace LiveIni

/-- The run comes to the result from any calls, and makes none of its own. -/
def Run.Gives {α : Type} (run : Run α) (result : Except Fault α) : Prop :=
  ∀ calls, run calls = (result, calls)

/-- The run makes at least one call after the given ones. -/
def Run.CallsAfter {α : Type} (run : Run α) (calls : Calls) : Prop :=
  ∃ call more, (run calls).2 = calls ++ call :: more

/-- The result of a run that an operation was refused to. -/
def IsRefused {α : Type} (result : Except Fault α) : Prop :=
  ∃ name, result = .error (.refused name)

/-- The held run gives a result without any call. The free run has the same result and makes
no call either, or it makes a call and the held run was refused.
-/
def Lockstep {α : Type} (held free : Run α) : Prop :=
  ∃ result,
    held.Gives result
    ∧ ∀ calls, free calls = (result, calls) ∨ (IsRefused result ∧ free.CallsAfter calls)

namespace Lockstep

variable {α β : Type}

theorem pure (a : α) : Lockstep (pure a : Run α) (pure a) :=
  ⟨.ok a, fun _ => rfl, fun _ => Or.inl rfl⟩

theorem throw (fault : Fault) : Lockstep (throw fault : Run α) (throw fault) :=
  ⟨.error fault, fun _ => rfl, fun _ => Or.inl rfl⟩

/-- The free run extends the calls, by zero or more. -/
theorem extends_calls {held free : Run α} (step : Lockstep held free) (calls : Calls)
    : ∃ more, (free calls).2 = calls ++ more := by
  obtain ⟨result, _, agree⟩ := step
  rcases agree calls with same | ⟨_, call, more, made⟩
  · exact ⟨[], by rw [same, List.append_nil]⟩
  · exact ⟨call :: more, made⟩

/-- A run that goes on after a call has made that call. -/
theorem callsAfter_bind {first : Run α} {held next : α → Run β} {calls : Calls}
    (made : first.CallsAfter calls) (steps : ∀ a, Lockstep (held a) (next a))
    : (first >>= next).CallsAfter calls := by
  obtain ⟨call, more, made⟩ := made
  rcases ran : first calls with ⟨result, after⟩
  rw [ran] at made
  change after = _ at made
  cases result with
  | error fault => exact ⟨call, more, by rw [Computation.bind_of_error ran, made]⟩
  | ok a =>
      obtain ⟨later, extended⟩ := (steps a).extends_calls after
      refine ⟨call, more ++ later, ?_⟩
      rw [Computation.bind_of_ok ran, extended, made]
      simp

/-- Runs in step stay in step when they go on with runs in step.
Witness: a refusal ends the held run, while the free run keeps the call that was refused.
-/
theorem bind {held free : Run α} {heldNext freeNext : α → Run β}
    (first : Lockstep held free) (steps : ∀ a, Lockstep (heldNext a) (freeNext a))
    : Lockstep (held >>= heldNext) (free >>= freeNext) := by
  obtain ⟨result, gives, agree⟩ := first
  cases result with
  | ok a =>
      obtain ⟨last, lastGives, lastAgree⟩ := steps a
      refine ⟨last, fun calls => ?_, fun calls => ?_⟩
      · rw [Computation.bind_of_ok (gives calls), lastGives calls]
      · rcases agree calls with same | ⟨⟨_, refused⟩, _⟩
        · unfold Run.CallsAfter
          rw [Computation.bind_of_ok same]
          exact lastAgree calls
        · cases refused
  | error fault =>
      refine ⟨.error fault, fun calls => Computation.bind_of_error (gives calls), fun calls => ?_⟩
      rcases agree calls with same | ⟨⟨name, refused⟩, made⟩
      · exact Or.inl (Computation.bind_of_error same)
      · cases refused
        exact Or.inr ⟨⟨name, rfl⟩, callsAfter_bind made steps⟩

theorem congruent : Run.Congruent @Lockstep where
  pure := Lockstep.pure
  throw := Lockstep.throw
  bind := Lockstep.bind

end Lockstep

variable {α : Type}

/-- A held run never makes a call. -/
theorem Lockstep.held_calls {held free : Run α} (step : Lockstep held free) (calls : Calls)
    : (held calls).2 = calls := by
  obtain ⟨result, gives, _⟩ := step
  rw [gives calls]

/-- Where the held run succeeds, the free run does the same.
Witness: a successful result is no refusal.
-/
theorem Lockstep.free_of_ok {held free : Run α} (step : Lockstep held free)
    {before after : Calls} {a : α} (ran : held before = (.ok a, after)) (calls : Calls)
    : free calls = (.ok a, calls) := by
  obtain ⟨result, gives, agree⟩ := step
  have same : result = .ok a := by
    rw [gives before] at ran
    exact congrArg Prod.fst ran
  subst same
  rcases agree calls with same | ⟨⟨_, refused⟩, _⟩
  · exact same
  · cases refused

/-- Where the free run succeeds and makes no call, the held run does the same. -/
theorem Lockstep.held_of_ok {held free : Run α} (step : Lockstep held free)
    {calls : Calls} {a : α} (ran : free calls = (.ok a, calls)) (before : Calls)
    : held before = (.ok a, before) := by
  obtain ⟨result, gives, agree⟩ := step
  rw [gives before]
  rcases agree calls with same | ⟨_, call, more, made⟩
  · rw [ran] at same
    rw [← (Prod.mk.inj same).1]
  · rw [ran] at made
    change calls = _ at made
    simp at made

end LiveIni
