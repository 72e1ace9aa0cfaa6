import LiveIni.Pipeline
import LiveIni.Proofs.Computation

/-!
Pipelines that differ in nothing but their loggers. Of a world they look at the calls and the files
alone, and a logger without a log file changes neither. So from worlds with the same calls and
files they come to the same results, and leave such worlds again.
-/

namespace LiveIni

/-- Worlds with the same calls and files, whatever has been logged in them. -/
structure World.Alike (world other : World) : Prop where
  calls : world.calls = other.calls
  files : world.files = other.files

theorem World.Alike.symm {world other : World} (alike : world.Alike other) : other.Alike world :=
  ⟨alike.calls.symm, alike.files.symm⟩

theorem World.Alike.trans {world other third : World} (alike : world.Alike other)
    (next : other.Alike third)
    : world.Alike third :=
  ⟨alike.calls.trans next.calls, alike.files.trans next.files⟩

/-- Whether no message is written to a file: there is no logger, or it has no log file. -/
def Logger.sparesFiles : Option Logger → Bool
  | some (.host logger) => logger.logFile.isNone
  | _ => true

/-- A logger without a log file sends what it does not hold back to the host alone. -/
theorem HostLogger.log_fileless {logger : HostLogger} (fileless : logger.logFile = none)
    (level : LogLevel) (message : Text) (world : World)
    : logger.log level message none world
      = .ok (if level.severity < logger.level.severity then world
          else sendToHost ⟨level, logger.component, message⟩ world) := by
  have nowhere : logger.target? none = none := fileless
  unfold log
  rw [nowhere]
  exact (apply_ite Except.ok _ _ _).symm

/-- A message without a destination changes neither calls nor files, unless the logger has a log
file. This holds of a logger that fails, too.
-/
theorem Logger.safeLog_alike {logger : Option Logger} (spares : sparesFiles logger = true)
    (level : LogLevel) (message : Text) (world : World)
    : (safeLog logger level message none world).Alike world := by
  match logger, spares with
  | none, _ => exact ⟨rfl, rfl⟩
  | some .silent, _ => exact ⟨rfl, rfl⟩
  | some .recording, _ => exact ⟨rfl, rfl⟩
  | some (.failing failure), _ => exact ⟨rfl, rfl⟩
  | some (.host logger), spares =>
      have sent := logger.log_fileless (Option.isNone_iff_eq_none.mp spares) level message world
      simp only [safeLog, log, sent]
      unfold HostLogger.sendToHost
      split
      · exact ⟨rfl, rfl⟩
      · split <;> exact ⟨rfl, rfl⟩

-----------------------------------------------------------------------------------------
-- Actions that agree
-----------------------------------------------------------------------------------------

variable {α β : Type}

/-- From worlds that are alike the actions come to one result, and to worlds that are alike. -/
def Action.Agrees (action other : Action α) : Prop :=
  ∀ world beside, world.Alike beside →
    (action world).1 = (other beside).1 ∧ (action world).2.Alike (other beside).2

namespace Action.Agrees

theorem pure (a : α) : Agrees (pure a : Action α) (pure a) :=
  fun _ _ alike => ⟨rfl, alike⟩

theorem throw (fault : PipelineFault) : Agrees (throw fault : Action α) (throw fault) :=
  fun _ _ alike => ⟨rfl, alike⟩

theorem set {world beside : World} (alike : world.Alike beside)
    : Agrees (set world : Action PUnit) (set beside) :=
  fun _ _ _ => ⟨rfl, alike⟩

/-- Actions that agree go on in agreement with actions that agree. -/
theorem bind {action other : Action α} {next otherNext : α → Action β}
    (first : action.Agrees other) (rest : ∀ a, (next a).Agrees (otherNext a))
    : Agrees (action >>= next) (other >>= otherNext) := by
  intro world beside alike
  obtain ⟨same, left⟩ := first world beside alike
  rcases ran : action world with ⟨result, after⟩
  rcases otherRan : other beside with ⟨otherResult, otherAfter⟩
  rw [ran, otherRan] at same left
  change result = otherResult at same
  subst same
  cases result with
  | error fault =>
      rw [Computation.bind_of_error ran, Computation.bind_of_error otherRan]
      exact ⟨rfl, left⟩
  | ok a =>
      rw [Computation.bind_of_ok ran, Computation.bind_of_ok otherRan]
      exact rest a after otherAfter left

/-- Actions that first look at the world may go by its calls and files. -/
theorem get_bind {next otherNext : World → Action β}
    (rest : ∀ world beside, world.Alike beside → (next world).Agrees (otherNext beside))
    : Agrees (get >>= next) (get >>= otherNext) :=
  fun world beside alike => rest world beside alike world beside alike

/-- Steps for the items of a list agree if they do for each item, by induction on the list. -/
theorem foldlM {step otherStep : β → α → Action β}
    (steps : ∀ b a, (step b a).Agrees (otherStep b a)) (items : List α) (b : β)
    : Agrees (items.foldlM step b) (items.foldlM otherStep b) := by
  induction items generalizing b with
  | nil => exact pure b
  | cons item rest ih =>
      simp only [List.foldlM_cons]
      exact (steps b item).bind fun next => ih next

/-- A run of its own sees nothing of a world but the calls. -/
theorem ofRun (run : Run α) : Agrees (Action.ofRun run) (Action.ofRun run) := by
  unfold Action.ofRun
  refine get_bind fun world beside alike => ?_
  rw [alike.calls]
  rcases run.run beside.calls with ⟨result, calls⟩
  refine bind (set ⟨rfl, alike.files⟩) fun _ => ?_
  cases result with
  | ok a => exact pure a
  | error fault => exact throw _

theorem render (v : TypedValue) : Agrees (Action.render v) (Action.render v) := by
  unfold Action.render
  split
  · exact pure _
  · exact throw _

end Action.Agrees

-----------------------------------------------------------------------------------------
-- The steps of pipelines with different loggers
-----------------------------------------------------------------------------------------

/-- The pipeline with another logger, or with none. -/
def Pipeline.withLogger (p : Pipeline) (logger : Option Logger) : Pipeline :=
  { p with logger := logger }

namespace Pipeline

@[simp]
theorem withLogger_timeLimit (p : Pipeline) (logger : Option Logger)
    : (p.withLogger logger).timeLimit = p.timeLimit :=
  rfl

@[simp]
theorem withLogger_format (p : Pipeline) (logger : Option Logger)
    : (p.withLogger logger).format = p.format :=
  rfl

@[simp]
theorem withLogger_newline (p : Pipeline) (logger : Option Logger)
    : (p.withLogger logger).newline = p.newline :=
  rfl

@[simp]
theorem withLogger_codecs (p : Pipeline) (logger : Option Logger)
    : (p.withLogger logger).codecs = p.codecs :=
  rfl

@[simp]
theorem withLogger_refusal (p : Pipeline) (logger : Option Logger)
    : (p.withLogger logger).refusal = p.refusal :=
  rfl

variable {p : Pipeline} {scope : Scope} {expand : Bool} {first second : Option Logger}
variable (spares₁ : Logger.sparesFiles first = true) (spares₂ : Logger.sparesFiles second = true)

include spares₁ spares₂

theorem log_agrees (level : LogLevel) (message : Text)
    : ((p.withLogger first).log level message).Agrees ((p.withLogger second).log level message) :=
  fun world beside alike =>
    ⟨rfl, ((Logger.safeLog_alike spares₁ level message world).trans alike).trans
      (Logger.safeLog_alike spares₂ level message beside).symm⟩

theorem judge_agrees (count : Nat) (trial : Trial)
    : ((p.withLogger first).judge count trial).Agrees
        ((p.withLogger second).judge count trial) := by
  simp only [judge, withLogger_timeLimit]
  cases trial.rejection? p.timeLimit with
  | none => exact log_agrees spares₁ spares₂ _ _
  | some rejection => exact (log_agrees spares₁ spares₂ _ _).bind fun _ => .throw _

/-- A trial looks at nothing of a world but the calls. -/
theorem approve_agrees (texts : List Text)
    : ((p.withLogger first).approve scope texts).Agrees
        ((p.withLogger second).approve scope texts) := by
  unfold approve
  refine .get_bind fun world beside alike => ?_
  rw [alike.calls]
  exact .bind (.set ⟨rfl, alike.files⟩) fun _ => judge_agrees spares₁ spares₂ _ _

omit spares₁ spares₂ in
theorem resolveValue_agrees (environment : Option Environment) (raw : Text)
    : ((p.withLogger first).resolveValue scope expand environment raw).Agrees
        ((p.withLogger second).resolveValue scope expand environment raw) := by
  have infers (t : Text)
      : ((p.withLogger first).inferValue t).Agrees ((p.withLogger second).inferValue t) := by
    simp only [inferValue, withLogger_format]
    cases infer p.format t with
    | ok reading => exact .pure reading
    | error fault => exact .throw _
  unfold resolveValue
  refine (Action.Agrees.ofRun _).bind fun substituted => ?_
  split
  · split
    · exact infers _
    · exact (Action.Agrees.throw _).bind fun _ => infers _
  · exact infers _

theorem report_agrees (b : Builder) (d : Diagnostic)
    : ((p.withLogger first).report b d).Agrees ((p.withLogger second).report b d) :=
  (log_agrees spares₁ spares₂ .warn d.text).bind fun _ => .pure _

theorem reportInvalid_agrees (b : Builder) (line : Option Nat) (inSection key : Text)
    (invalid : Option InvalidLiteral)
    : ((p.withLogger first).reportInvalid b line inSection key invalid).Agrees
        ((p.withLogger second).reportInvalid b line inSection key invalid) := by
  cases invalid with
  | some literal => exact report_agrees spares₁ spares₂ b _
  | none => exact .pure b

theorem reportDuplicate_agrees (b : Builder) (number : Nat) (inSection key : Text) (new : Bool)
    : ((p.withLogger first).reportDuplicate b number inSection key new).Agrees
        ((p.withLogger second).reportDuplicate b number inSection key new) := by
  cases new with
  | true => exact .pure b
  | false => exact report_agrees spares₁ spares₂ b _

theorem addValue_agrees (b : Builder) (number : Nat) (inSection key raw : Text)
    : ((p.withLogger first).addValue scope expand b number inSection key raw).Agrees
        ((p.withLogger second).addValue scope expand b number inSection key raw) := by
  unfold addValue
  refine (resolveValue_agrees _ raw).bind fun reading => ?_
  refine (reportInvalid_agrees spares₁ spares₂ b _ inSection key _).bind fun b => ?_
  refine (reportDuplicate_agrees spares₁ spares₂ _ number inSection key _).bind fun b => ?_
  refine (Action.Agrees.render _).bind fun rendered => ?_
  exact (log_agrees spares₁ spares₂ _ _).bind fun _ => .pure b

theorem addLine_agrees (b : Builder) (l : PlacedLine)
    : ((p.withLogger first).addLine scope expand b l).Agrees
        ((p.withLogger second).addLine scope expand b l) := by
  obtain ⟨number, inSection, line⟩ := l
  cases line with
  | blank => exact .pure b
  | malformed text => exact .pure b
  | header name => exact (log_agrees spares₁ spares₂ _ _).bind fun _ => .pure _
  | comment text => exact .pure _
  | keyValue key raw => exact addValue_agrees spares₁ spares₂ b number inSection key raw

theorem parse_agrees (text : Text)
    : ((p.withLogger first).parse scope expand text).Agrees
        ((p.withLogger second).parse scope expand text) := by
  unfold parse
  refine (Action.Agrees.foldlM (report_agrees spares₁ spares₂) _ _).bind fun b => ?_
  refine (approve_agrees spares₁ spares₂ _).bind fun _ => ?_
  refine (Action.Agrees.foldlM (addLine_agrees spares₁ spares₂) _ b).bind fun b => ?_
  exact (log_agrees spares₁ spares₂ _ _).bind fun _ => .pure _

theorem cannotRead_agrees (path : Text) (reason : String)
    : ((p.withLogger first).cannotRead path reason : Action α).Agrees
        ((p.withLogger second).cannotRead path reason) :=
  (log_agrees spares₁ spares₂ _ _).bind fun _ => .throw _

theorem readBytes_agrees (path : Text)
    : ((p.withLogger first).readBytes path).Agrees ((p.withLogger second).readBytes path) := by
  unfold readBytes
  refine .get_bind fun world beside alike => ?_
  rw [alike.files]
  split
  · exact .pure _
  · exact cannotRead_agrees spares₁ spares₂ path _

theorem decodeFile_agrees (path encoding : Text) (bytes : Bytes)
    : ((p.withLogger first).decodeFile path encoding bytes).Agrees
        ((p.withLogger second).decodeFile path encoding bytes) := by
  unfold decodeFile
  simp only [withLogger_codecs]
  split
  · exact .throw _
  · split
    · exact .throw _
    · split
      · exact .pure _
      · exact cannotRead_agrees spares₁ spares₂ path _
      · exact .throw _

theorem load_agrees (path encoding : Text)
    : ((p.withLogger first).load scope expand path encoding).Agrees
        ((p.withLogger second).load scope expand path encoding) := by
  have read
      : ((p.withLogger first).readFile path encoding).Agrees
          ((p.withLogger second).readFile path encoding) :=
    (readBytes_agrees spares₁ spares₂ path).bind fun bytes =>
      decodeFile_agrees spares₁ spares₂ path encoding bytes
  exact (log_agrees spares₁ spares₂ _ _).bind fun _ =>
    read.bind fun text => parse_agrees spares₁ spares₂ text

theorem countChange_agrees (inSection : Text) (kv : KeyValue) (typed : TypedValue) (changed : Nat)
    : ((p.withLogger first).countChange inSection kv typed changed).Agrees
        ((p.withLogger second).countChange inSection kv typed changed) := by
  unfold countChange
  split
  · exact .pure changed
  · refine (Action.Agrees.render typed).bind fun rendered => ?_
    exact (log_agrees spares₁ spares₂ _ _).bind fun _ => .pure _

theorem resolveEntry_agrees (inSection : Text) (state : Builder × Nat) (named : Text × Entry)
    : ((p.withLogger first).resolveEntry scope expand inSection state named).Agrees
        ((p.withLogger second).resolveEntry scope expand inSection state named) := by
  obtain ⟨name, entry⟩ := named
  cases entry with
  | comment text => exact .pure _
  | keyValue kv =>
      unfold resolveEntry
      refine (resolveValue_agrees _ kv.raw).bind fun reading => ?_
      refine (reportInvalid_agrees spares₁ spares₂ _ _ inSection kv.key _).bind fun b => ?_
      exact (countChange_agrees spares₁ spares₂ inSection kv _ _).bind fun changed => .pure _

theorem resolve_agrees (d : Document)
    : ((p.withLogger first).resolve scope expand d).Agrees
        ((p.withLogger second).resolve scope expand d) := by
  unfold resolve
  refine (approve_agrees spares₁ spares₂ _).bind fun _ => ?_
  have sections (state : Builder × Nat) (named : Text × Entries)
      : ((p.withLogger first).resolveSection scope expand state named).Agrees
          ((p.withLogger second).resolveSection scope expand state named) :=
    .foldlM (resolveEntry_agrees spares₁ spares₂ named.1) named.2 _
  refine (Action.Agrees.foldlM sections _ _).bind fun state => ?_
  exact (log_agrees spares₁ spares₂ _ _).bind fun _ => .pure _

omit spares₁ spares₂ in
theorem dumps_agrees (d : Document) (mode : Text)
    : ((p.withLogger first).dumps d mode).Agrees ((p.withLogger second).dumps d mode) := by
  unfold dumps
  split
  · exact .throw _
  · next m _ =>
      simp only [withLogger_newline]
      cases d.text? m p.newline with
      | some t => exact .pure t
      | none => exact .throw _

theorem cannotWrite_agrees (path : Path) (reason : String)
    : ((p.withLogger first).cannotWrite path reason : Action α).Agrees
        ((p.withLogger second).cannotWrite path reason) :=
  (log_agrees spares₁ spares₂ _ _).bind fun _ => .throw _

theorem pathRefused_agrees (path refused : Path) (fault : PathFault)
    : ((p.withLogger first).pathRefused path refused fault : Action α).Agrees
        ((p.withLogger second).pathRefused path refused fault) := by
  unfold pathRefused
  split
  · exact (log_agrees spares₁ spares₂ _ _).bind fun _ => .throw _
  · exact cannotWrite_agrees spares₁ spares₂ path _

/-- Opening a file looks at nothing of a world but the files, and changes nothing else. -/
theorem openFile_agrees (path : Path) (mode : Files.WriteMode)
    : ((p.withLogger first).openFile path mode).Agrees
        ((p.withLogger second).openFile path mode) := by
  unfold openFile
  refine .get_bind fun world beside alike => ?_
  rw [alike.files]
  simp only [withLogger_refusal]
  split
  · exact pathRefused_agrees spares₁ spares₂ path _ _
  · refine .bind (.set ⟨alike.calls, rfl⟩) fun _ => ?_
    split
    · exact cannotWrite_agrees spares₁ spares₂ path _
    · exact pathRefused_agrees spares₁ spares₂ path _ _
    · exact .bind (.set ⟨alike.calls, rfl⟩) fun _ => .pure _

theorem encodeText_agrees (path : Path) (encoding : Text) (atStart : Bool) (text : Text)
    : ((p.withLogger first).encodeText path encoding atStart text).Agrees
        ((p.withLogger second).encodeText path encoding atStart text) := by
  unfold encodeText
  simp only [withLogger_codecs]
  split
  · exact .throw _
  · split
    · exact .throw _
    · split
      · exact .pure _
      · exact cannotWrite_agrees spares₁ spares₂ path _
      · exact .throw _

theorem writeFile_agrees (path : Path) (mode : Files.WriteMode) (encoding text : Text)
    : ((p.withLogger first).writeFile path mode encoding text).Agrees
        ((p.withLogger second).writeFile path mode encoding text) := by
  refine (openFile_agrees spares₁ spares₂ path mode).bind fun _ =>
    (encodeText_agrees spares₁ spares₂ path encoding _ text).bind fun _ =>
      .get_bind fun world beside alike => ?_
  rw [alike.files]
  exact .set ⟨alike.calls, rfl⟩

theorem dump_agrees (d : Document) (path mode encoding : Text) (append force : Bool)
    : ((p.withLogger first).dump d path mode encoding append force).Agrees
        ((p.withLogger second).dump d path mode encoding append force) := by
  unfold dump
  simp only [withLogger_codecs]
  split
  · exact .throw _
  · refine (dumps_agrees d mode).bind fun text => ?_
    refine (writeFile_agrees spares₁ spares₂ _ _ _ text).bind fun _ => ?_
    exact (log_agrees spares₁ spares₂ _ _).bind fun _ => .pure _

theorem validate_agrees (d : Document) (required : Requirements)
    : ((p.withLogger first).validate d required).Agrees
        ((p.withLogger second).validate d required) := by
  unfold validate
  dsimp only
  refine .bind ?_ fun _ => .pure _
  induction required.gaps d with
  | nil => exact .pure _
  | cons gap rest ih =>
      rw [List.forIn_cons, List.forIn_cons]
      exact ((log_agrees spares₁ spares₂ _ _).bind fun _ => .pure _).bind fun
        | .done _ => .pure _
        | .yield _ => ih

end Pipeline

end LiveIni
