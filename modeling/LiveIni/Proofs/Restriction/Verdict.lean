import LiveIni.Proofs.Pipeline.Reading

/-!
The verdict on the texts of a document is exact: they are approved if and only if the scope,
with all its operations allowed, would substitute each of them in turn without invoking any.
What a trial comes to and what the substitution comes to are then the same texts.
-/

namespace LiveIni

/-- The scope with no operation refused. -/
def Scope.unrestrict (scope : Scope) : Scope :=
  { scope with restricted := false }

variable (scope : Scope) (texts : List Text)

/-- Texts that are substituted in turn are substituted in step. -/
theorem Lockstep.substitute_mapM
    : Lockstep (texts.mapM scope.restrict.substitute) (texts.mapM scope.unrestrict.substitute) :=
  congruent.mapM (substitute scope.unrestrict) texts

/-- All texts settle exactly if the restricted scope substitutes them in turn.
Witness: a trial is that substitution without its results, and it goes through if all texts
settle.
-/
theorem settled_iff_restrict_mapM (calls : Calls)
    : (∀ t ∈ texts, ∃ s, scope.settled t = .ok s)
      ↔ ∃ results, texts.mapM scope.restrict.substitute calls = (.ok results, calls) := by
  have tried := Trial.substituteAll_gives scope texts calls
  rw [Trial.substituteAll_eq_mapM, map_eq_pure_bind] at tried
  rw [← Trial.result_eq_ok_iff]
  obtain ⟨outcome, gives, _⟩ := Lockstep.substitute_mapM scope texts
  rw [gives calls]
  cases outcome with
  | error fault =>
      rw [Computation.bind_of_error (gives calls)] at tried
      have failed : Trial.result scope texts = .error fault := (congrArg Prod.fst tried).symm
      rw [failed]
      refine iff_of_false (fun passed => ?_) (fun ⟨results, ran⟩ => ?_)
      · cases passed
      · cases congrArg Prod.fst ran
  | ok results =>
      rw [Computation.bind_of_ok (gives calls)] at tried
      have passed : Trial.result scope texts = .ok () := (congrArg Prod.fst tried).symm
      exact iff_of_true passed ⟨results, rfl⟩

/-- Texts come to the same results in the restricted scope and without a call in the free one.
-/
theorem unrestrict_mapM_iff (calls : Calls) (results : List Text)
    : texts.mapM scope.unrestrict.substitute calls = (.ok results, calls)
      ↔ texts.mapM scope.restrict.substitute calls = (.ok results, calls) :=
  ⟨fun ran => (Lockstep.substitute_mapM scope texts).held_of_ok ran calls,
    fun ran => (Lockstep.substitute_mapM scope texts).free_of_ok ran calls⟩

/-- Texts are approved exactly if the trial is not interrupted and the scope, with all its
operations allowed, substitutes them in turn without calling any. The restricted scope then
comes to the same results. Neither it nor a restriction of it ever makes a call, whatever it
is to substitute or to evaluate, and also where it fails.
-/
theorem approve_iff_substitutes_without_calls (p : Pipeline) (world : World)
    : ((p.approve scope texts world).1 = .ok ()
          ↔ p.interruption = none
            ∧ ∃ results,
                texts.mapM scope.unrestrict.substitute world.calls = (.ok results, world.calls))
      ∧ (∀ results,
          texts.mapM scope.unrestrict.substitute world.calls = (.ok results, world.calls)
          ↔ texts.mapM scope.restrict.substitute world.calls = (.ok results, world.calls))
      ∧ ∀ copy ∈ [scope.restrict, scope.restrict.restrict],
          ∀ t calls, (copy.substitute t calls).2 = calls ∧ (copy.evaluate t calls).2 = calls := by
  refine ⟨?_, unrestrict_mapM_iff scope texts world.calls, ?_⟩
  · rw [(p.approve_settles scope texts world).1, p.verdict_eq_ok_iff,
      settled_iff_restrict_mapM scope texts world.calls]
    simp only [unrestrict_mapM_iff]
  · intro copy member t calls
    have same : copy = scope.restrict := by simpa using member
    subst same
    exact ⟨(Lockstep.substitute scope t).held_calls calls,
      (Lockstep.evaluate scope t).held_calls calls⟩

end LiveIni
