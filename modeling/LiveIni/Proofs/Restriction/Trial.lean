import LiveIni.Proofs.Restriction.Evaluation
import LiveIni.Sandbox

/-!
Trials, seen from outside. What a text comes to in the restricted scope is a value of the scope
and the text alone. A trial passes exactly if every text comes to something, and then the free
scope substitutes all of them just so, without a call.
-/

namespace LiveIni

variable (scope : Scope)

/-- What a text comes to where no operation may be invoked. -/
def Scope.settled (t : Text) : Except Fault Text :=
  (scope.restrict.substitute t []).1

/-- A restricted substitution comes to the settled text from any calls, and makes none. -/
theorem Scope.restrict_substitute_gives (t : Text)
    : (scope.restrict.substitute t).Gives (scope.settled t) := by
  obtain ⟨result, gives, _⟩ := Lockstep.substitute scope t
  have settled : scope.settled t = result := congrArg Prod.fst (gives [])
  rw [settled]
  exact gives

/-- A settled text is what the scope itself substitutes, without any call. -/
theorem Scope.substitute_gives_of_settled {scope : Scope} {t s : Text}
    (settled : scope.settled t = .ok s)
    : (scope.substitute t).Gives (.ok s) := by
  intro calls
  have held := scope.restrict_substitute_gives t calls
  rw [settled] at held
  exact (Lockstep.substitute scope t).free_of_ok held calls

namespace Trial

/-- A trial of more texts is a trial of the first one, and then of the others. -/
theorem substituteAll_cons (t : Text) (rest : List Text)
    : substituteAll scope (t :: rest)
      = (do
          let _ ← scope.substitute t
          substituteAll scope rest) := by
  rw [substituteAll, List.forM_eq_forM, List.forM_cons, bind_assoc]
  rfl

/-- Substituting texts without their results is substituting them and dropping the results.
Witness: induction on the texts, with the results of the later ones under the binder.
-/
theorem substituteAll_eq_mapM (texts : List Text)
    : substituteAll scope texts = (fun _ => ()) <$> texts.mapM scope.substitute := by
  induction texts with
  | nil => simp [substituteAll, List.forM_eq_forM]
  | cons t rest ih =>
      rw [substituteAll_cons, ih]
      simp

/-- The outcome of a trial that has gone through the texts with a result. -/
def ofResult : Except Fault Unit → Trial
  | .ok _ => passed
  | .error fault => failed fault

/-- What a trial of texts comes to. -/
def result : List Text → Except Fault Unit
  | [] => .ok ()
  | t :: rest =>
    match scope.settled t with
    | .ok _ => result rest
    | .error fault => .error fault

/-- The texts are tried one after the other, without any call. -/
theorem substituteAll_gives (texts : List Text)
    : (substituteAll scope.restrict texts).Gives (result scope texts) := by
  induction texts with
  | nil => exact fun _ => rfl
  | cons t rest ih =>
      intro calls
      have first := scope.restrict_substitute_gives t calls
      rw [substituteAll_cons, result]
      cases settled : scope.settled t with
      | ok s =>
          rw [settled] at first
          rw [Computation.bind_of_ok first]
          exact ih calls
      | error fault =>
          rw [settled] at first
          exact Computation.bind_of_error first

/-- A trial has its outcome whatever calls were made before, and makes none. -/
theorem run_eq (texts : List Text) (calls : Calls)
    : run scope texts calls = (ofResult (result scope texts), calls) := by
  rw [run, substituteAll_gives scope texts calls]
  cases result scope texts <;> rfl

/-- A trial goes through if every text settles, and only then. -/
theorem result_eq_ok_iff (texts : List Text)
    : result scope texts = .ok () ↔ ∀ t ∈ texts, ∃ s, scope.settled t = .ok s := by
  induction texts with
  | nil => simp [result]
  | cons t rest ih =>
      rw [result]
      cases settled : scope.settled t with
      | ok s => simp [ih, settled]
      | error fault => simp [settled]

end Trial

end LiveIni
