import LiveIni.Logger
import LiveIni.Proofs.Document.Tables
import LiveIni.Proofs.Files.Contents
import LiveIni.Proofs.Files.Paths

/-!
Calls of loggers and the log files. A file is opened by the first call with a message for it, and keeps
the level of that call's logger, so that the calls that have come through determine what is in every
log file.
-/

namespace LiveIni

-----------------------------------------------------------------------------------------
-- Calls of loggers
-----------------------------------------------------------------------------------------

/-- A logger is called with a message, and possibly with a destination for it. -/
structure LogCall where
  logger : HostLogger
  level : LogLevel
  message : Text
  destination : Option Text := none

namespace LogCall

def record (c : LogCall) : LogRecord :=
  ⟨c.level, c.logger.component, c.message⟩

/-- The bytes of the message in a log file. -/
def line (c : LogCall) : Bytes :=
  Text.utf8 c.record.line

/-- The file that the message is for. -/
def file? (c : LogCall) : Option Path :=
  (c.logger.target? c.destination).map fun target => (Path.ofText target).resolved

/-- Whether the message is severe enough for a level. -/
def reaches (c : LogCall) (level : LogLevel) : Bool :=
  level.severity ≤ c.level.severity

/-- Whether the message is passed on to the sinks of the host program. -/
def passed (c : LogCall) : Bool :=
  c.file?.isSome || c.reaches c.logger.level

/-- What comes of the call. -/
def run (c : LogCall) (world : World) : Except Text World :=
  c.logger.log c.level c.message c.destination world

/-- The calls with messages for a file. -/
def meant (calls : List LogCall) (file : Path) : List LogCall :=
  calls.filter (·.file? = some file)

/-- The level of the logger that opened a file, which is the first one that has been called with a
message for it.
-/
def openLevel? (calls : List LogCall) (file : Path) : Option LogLevel :=
  (meant calls file).head?.map (·.logger.level)

/-- The calls whose messages are severe enough for the logger that opened the file. -/
def written (calls : List LogCall) (file : Path) : List LogCall :=
  (meant calls file).filter fun c => (openLevel? calls file).any c.reaches

/-- What is in a file after some calls, if `before` has been in it. -/
def contentAfter (before : Option Bytes) (calls : List LogCall) (file : Path) : Option Bytes :=
  if meant calls file = [] then before
  else some (before.getD [] ++ (written calls file).flatMap line)

variable {c : LogCall} {calls : List LogCall} {file : Path}

theorem meant_append_self (isFor : c.file? = some file)
    : meant (calls ++ [c]) file = meant calls file ++ [c] := by
  simp [meant, isFor]

theorem meant_append_of_ne (other : c.file? ≠ some file)
    : meant (calls ++ [c]) file = meant calls file := by
  simp [meant, other]

theorem openLevel?_append_self (isFor : c.file? = some file)
    : openLevel? (calls ++ [c]) file = some ((openLevel? calls file).getD c.logger.level) := by
  rw [openLevel?, meant_append_self isFor, openLevel?]
  cases meant calls file <;> rfl

theorem openLevel?_append_of_ne (other : c.file? ≠ some file)
    : openLevel? (calls ++ [c]) file = openLevel? calls file := by
  rw [openLevel?, meant_append_of_ne other, openLevel?]

theorem openLevel?_eq_none_iff : openLevel? calls file = none ↔ meant calls file = [] := by
  rw [openLevel?, Option.map_eq_none_iff, List.head?_eq_none_iff]

/-- A message for a file is the last one there, if it is severe enough for the file. -/
theorem contentAfter_append_self (before : Option Bytes) (isFor : c.file? = some file)
    : contentAfter before (calls ++ [c]) file
      = some ((contentAfter before calls file).getD []
        ++ if c.reaches ((openLevel? calls file).getD c.logger.level) then c.line else []) := by
  have last (level : LogLevel)
      : ([c].filter fun c => (some level).any c.reaches).flatMap line
        = if c.reaches level then c.line else [] := by
    cases severe : c.reaches level <;> simp [severe]
  rw [contentAfter, written, openLevel?_append_self isFor, meant_append_self isFor,
    if_neg (by simp), List.filter_append, List.flatMap_append, last, contentAfter, written]
  cases first : openLevel? calls file with
  | none => simp [openLevel?_eq_none_iff.mp first]
  | some level =>
      have opened : meant calls file ≠ [] := by
        rw [ne_eq, ← openLevel?_eq_none_iff, first]
        exact nofun
      simp [opened]

theorem contentAfter_append_of_ne (before : Option Bytes) (other : c.file? ≠ some file)
    : contentAfter before (calls ++ [c]) file = contentAfter before calls file := by
  simp only [contentAfter, written, meant_append_of_ne other, openLevel?_append_of_ne other]

end LogCall

-----------------------------------------------------------------------------------------
-- One call
-----------------------------------------------------------------------------------------

/-- The file at a path can be opened for a log, with the directories above it, and these are the files
then.
-/
def Files.OpensLog (files : Files) (path : Path) (opened : Files) : Prop :=
  ∃ made place bytes, files.makeDirectories path.parent = .ok made
    ∧ made.openForWriting path .extend = .ok (opened, place, bytes)

/-- Opening a file for a log keeps its content, and that of all others. -/
theorem Files.OpensLog.content?_eq {files opened : Files} {path : Path} (down : path.Descends)
    (opens : files.OpensLog path opened)
    : content? opened path = some ((content? files path).getD [])
      ∧ ∀ q, q.text ≠ path.text → content? opened q = content? files q := by
  obtain ⟨made, place, bytes, making, opening⟩ := opens
  obtain ⟨atPlace, old, new, others⟩ := content?_openForWriting opening
  rw [down.resolved_eq] at atPlace
  subst atPlace
  refine ⟨?_, fun q other => ?_⟩
  · rw [new, old, contentOpened, content?_makeDirectories making]
  · rw [others q other, content?_makeDirectories making]

namespace HostLogger

/-- The sink of a log file is there already, or the file is opened and the sink has the level of the
logger.
-/
inductive SinkAdded (logger : HostLogger) (file : Path) (world : World) : World → Prop where
  | known (known : world.hub.sinks.has file.text = true) : SinkAdded logger file world world
  | opened {opened : Files} (new : world.hub.sinks.has file.text = false)
      (opens : world.files.OpensLog file opened)
      : SinkAdded logger file world { world with
          files := opened
          hub := { world.hub with
            sinks := world.hub.sinks.set file.text { level := logger.level } } }

variable {logger : HostLogger} {target : Text} {file : Path} {world after : World}

theorem addSink_eq_ok_iff
    : logger.addSink target world = .ok after
      ↔ SinkAdded logger (Path.ofText target).resolved world after := by
  unfold addSink
  dsimp only
  split
  · next known =>
      constructor
      · rintro ⟨⟩
        exact .known known
      · rintro (_ | ⟨new, _⟩)
        · rfl
        · rw [known] at new
          cases new
  · next new =>
      constructor
      · intro added
        split at added
        · cases added
        · next opened place bytes opening =>
            cases added
            obtain ⟨made, making, opening⟩ := Computation.bind_eq_ok_iff.mp opening
            exact .opened (by simpa using new) ⟨made, place, bytes, making, opening⟩
      · rintro (known | ⟨_, made, place, bytes, making, opening⟩)
        · exact absurd known new
        · have both
              : (do
                  let made ← world.files.makeDirectories (Path.ofText target).resolved.parent
                  made.openForWriting (Path.ofText target).resolved .extend)
                = Except.ok (_, place, bytes) :=
            Computation.bind_eq_ok_iff.mpr ⟨made, making, opening⟩
          rw [both]

namespace SinkAdded

theorem hub_eq (added : logger.SinkAdded file world after)
    : after.hub.hostAttached = world.hub.hostAttached
      ∧ after.hub.received = world.hub.received := by
  cases added with
  | known => exact ⟨rfl, rfl⟩
  | opened => exact ⟨rfl, rfl⟩

/-- The file has a sink with the level of the logger, unless it has had one already. -/
theorem get?_self (added : logger.SinkAdded file world after)
    : after.hub.sinks.get? file.text
      = some ((world.hub.sinks.get? file.text).getD { level := logger.level }) := by
  cases added with
  | known known =>
      obtain ⟨sink, found⟩ := Option.isSome_iff_exists.mp known
      rw [found, Option.getD_some]
  | opened new opens =>
      have none : world.hub.sinks.get? file.text = none := by
        simpa [Table.has] using new
      rw [none]
      exact Table.get?_set_self file.text { level := logger.level } world.hub.sinks

theorem get?_of_ne (added : logger.SinkAdded file world after) {q : Path}
    (other : q.text ≠ file.text)
    : after.hub.sinks.get? q.text = world.hub.sinks.get? q.text := by
  cases added with
  | known => rfl
  | opened => exact Table.get?_set_of_ne other _ _

/-- A file that has a sink now keeps its content, and so do all others. -/
theorem content?_eq (added : logger.SinkAdded file world after) (down : file.Descends)
    (stands : world.hub.sinks.has file.text = true → world.files.content? file ≠ none)
    : after.files.content? file = some ((world.files.content? file).getD [])
      ∧ ∀ q, q.text ≠ file.text → after.files.content? q = world.files.content? q := by
  cases added with
  | known known =>
      obtain ⟨bytes, found⟩ := Option.ne_none_iff_exists'.mp (stands known)
      refine ⟨?_, fun _ _ => rfl⟩
      rw [found, Option.getD_some]
  | opened new opens => exact opens.content?_eq down

end SinkAdded

theorem sendToHost_of_attached (attached : world.hub.hostAttached = true) (r : LogRecord)
    : sendToHost r world
      = { world with hub := { world.hub with received := world.hub.received ++ [r] } } :=
  if_pos attached

/-- A sink that is attached adds the line of a record that is severe enough to its file. -/
theorem sendToFile_of_attached {level : LogLevel} {bytes : Bytes} (r : LogRecord)
    (found : world.hub.sinks.get? file.text = some { level := level })
    (stands : world.files.content? file = some bytes)
    : (sendToFile file r world).hub = world.hub
      ∧ (sendToFile file r world).files.content? file
        = some (bytes ++ if level.severity ≤ r.level.severity then Text.utf8 r.line else [])
      ∧ ∀ q, q.text ≠ file.text
        → (sendToFile file r world).files.content? q = world.files.content? q := by
  unfold sendToFile
  rw [found]
  by_cases severe : level.severity ≤ r.level.severity
  · simp only [severe, and_true, if_true, true_and]
    exact Files.content?_append stands (Text.utf8 r.line)
  · simp [severe, stands]

end HostLogger

namespace LogCall

variable {c : LogCall} {file : Path} {world after : World}

theorem run_of_no_file (noFile : c.file? = none)
    : c.run world
      = .ok (if c.reaches c.logger.level then HostLogger.sendToHost c.record world
        else world) := by
  have noTarget : c.logger.target? c.destination = none := Option.map_eq_none_iff.mp noFile
  unfold run HostLogger.log
  rw [noTarget]
  dsimp only
  by_cases severe : c.logger.level.severity ≤ c.level.severity
  · simp [reaches, severe, record, Nat.not_lt.mpr severe]
  · simp [reaches, severe, Nat.lt_of_not_le severe]

/-- A message for a file comes through when the file has a sink, and this then takes it. -/
theorem run_eq_ok_iff (isFor : c.file? = some file)
    : c.run world = .ok after
      ↔ ∃ withSink, c.logger.SinkAdded file world withSink
        ∧ after = HostLogger.sendToFile file c.record
          (HostLogger.sendToHost c.record withSink) := by
  obtain ⟨target, named, rfl⟩ := Option.map_eq_some_iff.mp isFor
  unfold run HostLogger.log
  rw [named]
  simp only [Computation.bind_eq_ok_iff, HostLogger.addSink_eq_ok_iff]
  constructor
  · rintro ⟨withSink, added, ⟨⟩⟩
    exact ⟨withSink, added, rfl⟩
  · rintro ⟨withSink, added, rfl⟩
    exact ⟨withSink, added, rfl⟩

theorem isResolved_of_file? (isFor : c.file? = some file) : file.IsResolved := by
  obtain ⟨target, _, rfl⟩ := Option.map_eq_some_iff.mp isFor
  exact ⟨target, rfl⟩

-----------------------------------------------------------------------------------------
-- What calls leave
-----------------------------------------------------------------------------------------

/-- The calls explain a world that had some files before them: each log file has a sink with the level
of the logger that opened it, and the content that the calls give it.
-/
structure Explain (calls : List LogCall) (files : Files) (world : World) : Prop where
  attached : world.hub.hostAttached = true
  sinks : ∀ file : Path, file.IsResolved →
    world.hub.sinks.get? file.text
      = (openLevel? calls file).map fun level => { level := level }
  contents : ∀ file : Path, file.IsResolved →
    world.files.content? file = contentAfter (files.content? file) calls file

variable {calls : List LogCall} {files : Files}

theorem explain_nil (files : Files) : Explain [] files { files := files } where
  attached := rfl
  sinks _ _ := rfl
  contents _ _ := rfl

/-- A file has a sink exactly if a call has had a message for it. -/
theorem Explain.has_iff (explained : Explain calls files world) (resolved : file.IsResolved)
    : world.hub.sinks.has file.text = true ↔ meant calls file ≠ [] := by
  rw [Table.has, explained.sinks file resolved, Option.isSome_map, Option.isSome_iff_ne_none, ne_eq,
    openLevel?_eq_none_iff]

/-- A call with a message for no file changes what the sinks of the host program have received at
most.
-/
theorem Explain.append_of_no_file (explained : Explain calls files world) (noFile : c.file? = none)
    {hub : LogHub} (attached : hub.hostAttached = true) (sinks : hub.sinks = world.hub.sinks)
    : Explain (calls ++ [c]) files { world with hub := hub } := by
  have other (file : Path) : c.file? ≠ some file := by simp [noFile]
  refine ⟨attached, fun file resolved => ?_, fun file resolved => ?_⟩
  · rw [openLevel?_append_of_ne (other file), ← explained.sinks file resolved, sinks]
  · rw [contentAfter_append_of_ne _ (other file)]
    exact explained.contents file resolved

/-- A call with a message for a file opens the file if it is the first one, and writes to it what is
severe enough for the logger that opened it.
-/
theorem Explain.append_of_file {file : Path} (explained : Explain calls files world)
    (isFor : c.file? = some file) (added : c.logger.SinkAdded file world after)
    : let next := HostLogger.sendToFile file c.record (HostLogger.sendToHost c.record after)
      Explain (calls ++ [c]) files next
        ∧ next.hub.received = world.hub.received ++ [c.record] := by
  have resolved := isResolved_of_file? isFor
  have attached : after.hub.hostAttached = true := added.hub_eq.1.trans explained.attached
  have sink : after.hub.sinks.get? file.text
      = some { level := (openLevel? calls file).getD c.logger.level } := by
    rw [added.get?_self, explained.sinks file resolved]
    cases openLevel? calls file <;> rfl
  have stands (known : world.hub.sinks.has file.text = true)
      : world.files.content? file ≠ none := by
    have opened := (explained.has_iff resolved).mp known
    rw [explained.contents file resolved, contentAfter, if_neg opened]
    exact nofun
  obtain ⟨content, kept⟩ := added.content?_eq resolved.descends stands
  rw [HostLogger.sendToHost_of_attached attached]
  obtain ⟨hub, extended, others⟩ := @HostLogger.sendToFile_of_attached file
    { after with hub := { after.hub with received := after.hub.received ++ [c.record] } } _ _
    c.record sink content
  have apart {q : Path} (plain : q.IsResolved) (other : c.file? ≠ some q)
      : q.text ≠ file.text := fun same =>
    other (isFor.trans (congrArg some
      (resolved.descends.text_injective plain.descends same.symm)))
  refine ⟨⟨?_, fun q plain => ?_, fun q plain => ?_⟩, ?_⟩
  · rw [hub]
    exact attached
  · rw [hub]
    by_cases same : c.file? = some q
    · cases isFor.symm.trans same
      rw [openLevel?_append_self isFor]
      exact sink
    · rw [openLevel?_append_of_ne same, ← explained.sinks q plain]
      exact added.get?_of_ne (apart plain same)
  · by_cases same : c.file? = some q
    · cases isFor.symm.trans same
      rw [extended, contentAfter_append_self _ isFor, explained.contents file resolved]
      simp only [reaches, decide_eq_true_eq]
      rfl
    · rw [contentAfter_append_of_ne _ same, ← explained.contents q plain,
        others q (apart plain same)]
      exact kept q (apart plain same)
  · rw [hub, ← added.hub_eq.2]

/-- A call that comes through is one more that explains the world, and it has passed its message on
to the sinks of the host program if it was to do so.
-/
theorem Explain.append (explained : Explain calls files world) (came : c.run world = .ok after)
    : Explain (calls ++ [c]) files after
      ∧ after.hub.received
        = world.hub.received ++ if c.passed then [c.record] else [] := by
  cases target : c.file? with
  | none =>
      rw [run_of_no_file target, Except.ok.injEq] at came
      subst came
      simp only [passed, target, Option.isSome_none, Bool.false_or]
      split
      · rw [HostLogger.sendToHost_of_attached explained.attached]
        exact ⟨explained.append_of_no_file target explained.attached rfl, rfl⟩
      · exact ⟨explained.append_of_no_file target explained.attached rfl, by simp⟩
  | some file =>
      obtain ⟨withSink, added, rfl⟩ := (run_eq_ok_iff target).mp came
      obtain ⟨next, received⟩ := explained.append_of_file target added
      refine ⟨next, ?_⟩
      simpa only [passed, target, Option.isSome_some, Bool.true_or, if_true] using received

end LogCall

end LiveIni
