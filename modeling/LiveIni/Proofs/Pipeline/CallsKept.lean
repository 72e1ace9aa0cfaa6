import LiveIni.Proofs.Pipeline.Renewal

/-!
No step of the pipeline calls an operation. Reading and resolving settle, so they call none;
writing, loading and checking never come near one, whatever they do to files.
-/

namespace LiveIni

variable {α β : Type}

/-- From any world with these calls the action ends in one with the same calls. -/
def Action.KeepsCalls (action : Action α) (calls : Calls) : Prop :=
  ∀ world, world.calls = calls → (action world).2.calls = calls

namespace Action.KeepsCalls

variable {calls : Calls}

/-- What settles keeps all calls. -/
theorem of_settles {action : Action α} {result : Except PipelineFault α}
    (settled : action.Settles result)
    : action.KeepsCalls calls :=
  fun world same => (settled world).2.trans same

theorem pure (a : α) : KeepsCalls (pure a) calls :=
  of_settles (.pure a)

theorem throw (fault : PipelineFault) : KeepsCalls (throw fault : Action α) calls :=
  of_settles (.throw fault)

theorem set {world : World} (same : world.calls = calls) : KeepsCalls (set world) calls :=
  fun _ _ => same

/-- Actions that keep the calls keep them one after the other. -/
theorem bind {first : Action α} {next : α → Action β} (keeps : first.KeepsCalls calls)
    (rest : ∀ a, (next a).KeepsCalls calls)
    : KeepsCalls (first >>= next) calls := by
  intro world same
  have kept := keeps world same
  rcases ran : first world with ⟨outcome, after⟩
  rw [ran] at kept
  cases outcome with
  | error fault =>
      rw [Computation.bind_of_error ran]
      exact kept
  | ok a =>
      rw [Computation.bind_of_ok ran]
      exact rest a after kept

/-- An action that first looks at the world keeps the calls that it sees there. -/
theorem get_bind {next : World → Action β}
    (rest : ∀ world, world.calls = calls → (next world).KeepsCalls calls)
    : KeepsCalls (get >>= next) calls :=
  fun world same => rest world same world same

end Action.KeepsCalls

namespace Pipeline

variable (p : Pipeline) (scope : Scope) (expand : Bool) (calls : Calls)

theorem log_keepsCalls (level : LogLevel) (message : Text)
    : (p.log level message).KeepsCalls calls :=
  .of_settles (p.log_settles level message)

theorem parse_keepsCalls (text : Text) : (p.parse scope expand text).KeepsCalls calls :=
  .of_settles (p.parse_settles scope expand text)

theorem resolve_keepsCalls (d : Document) : (p.resolve scope expand d).KeepsCalls calls :=
  .of_settles (p.resolve_settles scope expand d)

theorem dumps_keepsCalls (d : Document) (mode : Text) : (p.dumps d mode).KeepsCalls calls := by
  unfold dumps
  split
  · exact .throw _
  · split
    · exact .pure _
    · exact .throw _

theorem cannotRead_keepsCalls (path : Text) (reason : String)
    : (p.cannotRead path reason : Action α).KeepsCalls calls :=
  (p.log_keepsCalls calls _ _).bind fun _ => .throw _

theorem readBytes_keepsCalls (path : Text) : (p.readBytes path).KeepsCalls calls := by
  unfold readBytes
  refine .get_bind fun world _ => ?_
  split
  · exact .pure _
  · exact p.cannotRead_keepsCalls calls path _

theorem decodeFile_keepsCalls (path encoding : Text) (bytes : Bytes)
    : (p.decodeFile path encoding bytes).KeepsCalls calls := by
  unfold decodeFile
  split
  · exact .throw _
  · split
    · exact .throw _
    · split
      · exact .pure _
      · exact p.cannotRead_keepsCalls calls path _
      · exact .throw _

theorem load_keepsCalls (path encoding : Text)
    : (p.load scope expand path encoding).KeepsCalls calls := by
  have read : (p.readFile path encoding).KeepsCalls calls :=
    (p.readBytes_keepsCalls calls path).bind fun bytes =>
      p.decodeFile_keepsCalls calls path encoding bytes
  exact (p.log_keepsCalls calls _ _).bind fun _ =>
    read.bind fun text => p.parse_keepsCalls scope expand calls text

theorem cannotWrite_keepsCalls (path : Path) (reason : String)
    : (p.cannotWrite path reason : Action α).KeepsCalls calls :=
  (p.log_keepsCalls calls _ _).bind fun _ => .throw _

theorem pathRefused_keepsCalls (path refused : Path) (fault : PathFault)
    : (p.pathRefused path refused fault : Action α).KeepsCalls calls := by
  unfold pathRefused
  split
  · exact (p.log_keepsCalls calls _ _).bind fun _ => .throw _
  · exact p.cannotWrite_keepsCalls calls path _

/-- Opening a file keeps the calls: all that it changes of the world are the files. -/
theorem openFile_keepsCalls (path : Path) (mode : Files.WriteMode)
    : (p.openFile path mode).KeepsCalls calls := by
  unfold openFile
  refine .get_bind fun world same => ?_
  split
  · exact p.pathRefused_keepsCalls calls path _ _
  · refine .bind (.set same) fun _ => ?_
    split
    · exact p.cannotWrite_keepsCalls calls path _
    · exact p.pathRefused_keepsCalls calls path _ _
    · exact .bind (.set same) fun _ => .pure _

theorem encodeText_keepsCalls (path : Path) (encoding : Text) (atStart : Bool) (text : Text)
    : (p.encodeText path encoding atStart text).KeepsCalls calls := by
  unfold encodeText
  split
  · exact .throw _
  · split
    · exact .throw _
    · split
      · exact .pure _
      · exact p.cannotWrite_keepsCalls calls path _
      · exact .throw _

theorem writeFile_keepsCalls (path : Path) (mode : Files.WriteMode) (encoding text : Text)
    : (p.writeFile path mode encoding text).KeepsCalls calls :=
  (p.openFile_keepsCalls calls path mode).bind fun _ =>
    (p.encodeText_keepsCalls calls path encoding _ text).bind fun _ =>
      .get_bind fun _ same => .set same

theorem dump_keepsCalls (d : Document) (path mode encoding : Text) (append force : Bool)
    : (p.dump d path mode encoding append force).KeepsCalls calls := by
  unfold dump
  split
  · exact .throw _
  · refine (p.dumps_keepsCalls calls d mode).bind fun text => ?_
    refine (p.writeFile_keepsCalls calls _ _ _ text).bind fun _ => ?_
    exact (p.log_keepsCalls calls _ _).bind fun _ => .pure _

/-- Checking requirements keeps the calls: every gap is logged, and nothing more. -/
theorem validate_keepsCalls (d : Document) (required : Requirements)
    : (p.validate d required).KeepsCalls calls := by
  unfold validate
  dsimp only
  refine .bind ?_ fun _ => .pure _
  induction required.gaps d with
  | nil => exact .pure _
  | cons gap rest ih =>
      rw [List.forIn_cons]
      exact ((p.log_keepsCalls calls _ _).bind fun _ => .pure _).bind fun
        | .done _ => .pure _
        | .yield _ => ih

end Pipeline

end LiveIni
