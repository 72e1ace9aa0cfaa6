import LiveIni.Proofs.Pipeline.CallsKept
import LiveIni.Session

/-!
A session never calls an operation. Every step keeps the calls, whatever it results in and
whatever the bindings, operations and variables are by then, so any number of steps does.
-/

namespace LiveIni.Session

variable {α : Type}

theorem run_calls {s : Session} {action : Action α}
    (keeps : action.KeepsCalls s.world.calls)
    : (s.run action).2.world.calls = s.world.calls :=
  keeps s.world rfl

theorem make_calls {s : Session} {into : Text} {action : Action Document}
    (keeps : action.KeepsCalls s.world.calls)
    : (s.make into action).2.world.calls = s.world.calls := by
  have kept := run_calls keeps
  unfold make
  rcases ran : s.run action with ⟨result, after⟩
  rw [ran] at kept
  cases result <;> exact kept

theorem report_calls {s : Session} {outcome : α → Outcome} {action : Action α}
    (keeps : action.KeepsCalls s.world.calls)
    : (s.report outcome action).2.world.calls = s.world.calls := by
  have kept := run_calls keeps
  unfold report
  rcases ran : s.run action with ⟨result, after⟩
  rw [ran] at kept
  cases result <;> exact kept

/-- What keeps the calls for every document keeps them for that of a slot, if it has one. -/
theorem withDocument_calls {s : Session} {slot : Text}
    {f : Document → Except SessionFault Outcome × Session}
    (keeps : ∀ d, (f d).2.world.calls = s.world.calls)
    : (s.withDocument slot f).2.world.calls = s.world.calls := by
  unfold withDocument
  split
  · exact keeps _
  · rfl

/-- A single step keeps the calls of a session, by cases on what it does. -/
theorem step_calls (s : Session) (step : SessionStep)
    : (s.step step).2.world.calls = s.world.calls := by
  cases step with
  | parse text expand into => exact make_calls (s.pipeline.parse_keepsCalls _ _ _ text)
  | load path encoding expand into => exact make_calls (s.pipeline.load_keepsCalls _ _ _ path _)
  | resolve doc expand into =>
      exact withDocument_calls fun d => make_calls (s.pipeline.resolve_keepsCalls _ _ _ d)
  | dumps doc mode =>
      exact withDocument_calls fun d => report_calls (s.pipeline.dumps_keepsCalls _ d mode)
  | roundTrip doc mode expand into =>
      refine withDocument_calls fun d => ?_
      have keeps
          : Action.KeepsCalls (do
              let text ← s.pipeline.dumps d mode
              return (text, ← s.pipeline.parse s.scope (s.expands expand) text))
            s.world.calls :=
        (s.pipeline.dumps_keepsCalls _ d mode).bind fun text =>
          (s.pipeline.parse_keepsCalls _ _ _ text).bind fun again => .pure (text, again)
      have kept := run_calls keeps
      dsimp only
      split
      · next ran =>
          rw [ran] at kept
          exact kept
      · next ran =>
          rw [ran] at kept
          exact kept
  | dump doc path mode encoding append force =>
      exact withDocument_calls fun d =>
        report_calls (s.pipeline.dump_keepsCalls _ d path mode _ append force)
  | validate doc required =>
      exact withDocument_calls fun d => report_calls (s.pipeline.validate_keepsCalls _ d required)
  | change c => rfl
  | interrupt interruption => rfl

/-- No sequence of steps makes a session call an operation: not one of its registered
operations, and not one that a binding is deferred to. Steps may fail, trials may be
interrupted, and bindings, operations and variables may change between any two steps.
Witness: induction on the steps, from what a single one keeps.
-/
theorem steps_never_call (s : Session) (steps : List SessionStep)
    : (s.steps steps).world.calls = s.world.calls := by
  induction steps generalizing s with
  | nil => rfl
  | cons step rest ih => exact (ih _).trans (s.step_calls step)

end LiveIni.Session
