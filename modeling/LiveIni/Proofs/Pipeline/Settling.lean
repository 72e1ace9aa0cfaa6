import LiveIni.Pipeline
import LiveIni.Proofs.Computation
import LiveIni.Proofs.Restriction.Lockstep

/-!
Actions that settle: their result is the same from every world, and they call no operation.
Logging settles, whatever the logger does, and so does every action made of settled parts.
-/

namespace LiveIni

namespace HostLogger

theorem sendToHost_calls (r : LogRecord) (world : World)
    : (sendToHost r world).calls = world.calls := by
  unfold sendToHost
  split <;> rfl

theorem sendToFile_calls (path : Path) (r : LogRecord) (world : World)
    : (sendToFile path r world).calls = world.calls := by
  unfold sendToFile
  split
  · split <;> rfl
  · rfl

theorem addSink_calls {logger : HostLogger} {target : Text} {world next : World}
    (added : logger.addSink target world = .ok next)
    : next.calls = world.calls := by
  unfold addSink at added
  dsimp only at added
  split at added
  · cases added
    rfl
  · split at added
    · cases added
    · cases added
      rfl

theorem log_calls {logger : HostLogger} {level : LogLevel} {message : Text}
    {destination : Option Text} {world next : World}
    (logged : logger.log level message destination world = .ok next)
    : next.calls = world.calls := by
  unfold HostLogger.log at logged
  dsimp only at logged
  split at logged
  · split at logged
    · cases logged
      rfl
    · cases logged
      exact sendToHost_calls _ _
  · next target _ =>
      cases added : logger.addSink target world with
      | error failure =>
          rw [added] at logged
          cases logged
      | ok made =>
          rw [added] at logged
          cases logged
          rw [sendToFile_calls, sendToHost_calls, addSink_calls added]

end HostLogger

namespace Logger

theorem log_calls {logger : Logger} {level : LogLevel} {message : Text}
    {destination : Option Text} {world next : World}
    (logged : logger.log level message destination world = .ok next)
    : next.calls = world.calls := by
  cases logger with
  | silent =>
      cases logged
      rfl
  | recording =>
      cases logged
      rfl
  | failing failure => cases logged
  | host logger => exact HostLogger.log_calls logged

/-- Logging makes no call, also where the logger is missing or fails. -/
theorem safeLog_calls (logger : Option Logger) (level : LogLevel) (message : Text)
    (destination : Option Text) (world : World)
    : (safeLog logger level message destination world).calls = world.calls := by
  unfold safeLog
  split
  · rfl
  · split
    · next logged => exact Logger.log_calls logged
    · rfl

end Logger

-----------------------------------------------------------------------------------------
-- Actions with one result in every world
-----------------------------------------------------------------------------------------

variable {α β : Type}

/-- From any world the action has this result, and calls no operation. -/
def Action.Settles (action : Action α) (result : Except PipelineFault α) : Prop :=
  ∀ world, (action world).1 = result ∧ (action world).2.calls = world.calls

namespace Action.Settles

variable {action : Action α} {result : Except PipelineFault α}

/-- What a run of a settled action has come to is its result. -/
theorem result_eq (settled : action.Settles result) {world after : World}
    {outcome : Except PipelineFault α} (ran : action world = (outcome, after))
    : result = outcome := by
  rw [← (settled world).1, ran]

theorem runs (settled : action.Settles result) (world : World)
    : ∃ after, action world = (result, after) :=
  ⟨(action world).2, Prod.ext (settled world).1 rfl⟩

theorem pure (a : α) : Settles (pure a) (.ok a) :=
  fun _ => ⟨rfl, rfl⟩

theorem throw (fault : PipelineFault) : Settles (throw fault : Action α) (.error fault) :=
  fun _ => ⟨rfl, rfl⟩

/-- An action settles if its first part does, and then what follows that part's result. -/
theorem bind {first : Action α} {next : α → Action β} {result : Except PipelineFault α}
    {last : α → Except PipelineFault β} (settled : first.Settles result)
    (steps : ∀ a, result = .ok a → (next a).Settles (last a))
    : Settles (first >>= next) (result >>= last) := by
  intro world
  obtain ⟨same, calls⟩ := settled world
  rcases ran : first world with ⟨outcome, after⟩
  rw [ran] at same calls
  change outcome = result at same
  change after.calls = world.calls at calls
  subst same
  cases outcome with
  | error fault =>
      rw [Computation.bind_of_error ran]
      exact ⟨rfl, calls⟩
  | ok a =>
      rw [Computation.bind_of_ok ran, ← calls]
      exact steps a rfl after

/-- Nothing follows a settled fault. -/
theorem bind_error {first : Action α} (next : α → Action β) {fault : PipelineFault}
    (settled : first.Settles (.error fault))
    : Settles (first >>= next) (.error fault) :=
  have steps (a : α) (impossible : .error fault = (.ok a : Except PipelineFault α))
      : (next a).Settles ((fun _ => .error fault : α → Except PipelineFault β) a) := by
    cases impossible
  settled.bind steps

theorem bind_ok {first : Action α} {next : α → Action β} {a : α}
    {result : Except PipelineFault β} (settled : first.Settles (.ok a))
    (rest : (next a).Settles result)
    : Settles (first >>= next) result :=
  have steps (b : α) (same : .ok a = (.ok b : Except PipelineFault α))
      : (next b).Settles ((fun _ => result : α → Except PipelineFault β) b) := by
    cases same
    exact rest
  settled.bind steps

/-- Steps for the items of a list settle one after the other, by induction on the list. -/
theorem foldlM {step : β → α → Action β} {result : β → α → Except PipelineFault β}
    {items : List α} (steps : ∀ b, ∀ a ∈ items, (step b a).Settles (result b a)) (b : β)
    : Settles (items.foldlM step b) (items.foldlM result b) := by
  induction items generalizing b with
  | nil => exact pure b
  | cons item rest ih =>
      simp only [List.foldlM_cons]
      exact (steps b item (by simp)).bind fun next _ =>
        ih (fun b a member => steps b a (by simp [member])) next

/-- A run that makes no call settles. -/
theorem ofRun {run : Run α} {result : Except Fault α} (gives : run.Gives result)
    : Settles (Action.ofRun run) (result.mapError .evaluation) := by
  intro world
  have seen : (get : Action World) world = (.ok world, world) := rfl
  have ran : run.run world.calls = (result, world.calls) := gives world.calls
  unfold Action.ofRun
  rw [Computation.bind_of_ok seen, ran]
  cases result <;> exact ⟨rfl, rfl⟩

end Action.Settles

theorem Pipeline.log_settles (p : Pipeline) (level : LogLevel) (message : Text)
    : (p.log level message).Settles (.ok ()) :=
  fun world => ⟨rfl, Logger.safeLog_calls p.logger level message none world⟩

end LiveIni
