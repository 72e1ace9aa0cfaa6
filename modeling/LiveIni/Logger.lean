import LiveIni.Files
import LiveIni.Log
import LiveIni.Scope

/-!
Loggers, and the world that a pipeline acts on: the calls it has made, the files, and what has
been logged. A logger that fails never disturbs the pipeline: the failure is noted on the
error output, and the message is lost.
-/

namespace LiveIni

/-- What a pipeline can change, apart from the documents that it returns. -/
structure World where
  calls : Calls := []
  files : Files := []
  hub : LogHub := {}
  recorded : List (LogLevel × Text) := []
  errorLines : List Text := []

/-- Loggers: one that discards messages, one that records them, one that always fails, and one
of the host program.
-/
inductive Logger where
  | silent
  | recording
  | failing (message : Text)
  | host (logger : HostLogger)
deriving DecidableEq, Repr

namespace HostLogger

/-- Where a message goes: to the given destination, if it is not empty, and to the logger's own
file otherwise.
-/
def target? (logger : HostLogger) (destination : Option Text) : Option Text :=
  (destination.filter (!·.isEmpty)).or logger.logFile

/-- Makes the sink of a log file, unless there is one. The file is created with the directories
above it.
-/
def addSink (logger : HostLogger) (target : Text) (world : World) : Except Text World :=
  let path := (Path.ofText target).resolved
  if world.hub.sinks.has path.text then .ok world
  else
    let opened := do
      let made ← world.files.makeDirectories path.parent
      made.openForWriting path .extend
    match opened with
    | .error fault => .error (fault.message path).toList
    | .ok (files, _, _) =>
      .ok { world with
        files := files
        hub := { world.hub with
          sinks := world.hub.sinks.set path.text { level := logger.level } } }

/-- Sends a record to the host's own sink. -/
def sendToHost (r : LogRecord) (world : World) : World :=
  if world.hub.hostAttached then
    { world with hub := { world.hub with received := world.hub.received ++ [r] } }
  else world

/-- Sends a record to the sink of a log file. -/
def sendToFile (path : Path) (r : LogRecord) (world : World) : World :=
  match world.hub.sinks.get? path.text with
  | some sink =>
    if sink.attached ∧ sink.level.severity ≤ r.level.severity then
      { world with files := world.files.append path (Text.utf8 r.line) }
    else world
  | none => world

/-- Logs a message. -/
def log (logger : HostLogger) (level : LogLevel) (message : Text) (destination : Option Text)
    (world : World) : Except Text World :=
  let r : LogRecord := ⟨level, logger.component, message⟩
  match logger.target? destination with
  | none =>
    if level.severity < logger.level.severity then .ok world else .ok (sendToHost r world)
  | some target => do
    let world ← logger.addSink target world
    return sendToFile (Path.ofText target).resolved r (sendToHost r world)

end HostLogger

namespace Logger

/-- Logs a message; a logger may fail. -/
def log (logger : Logger) (level : LogLevel) (message : Text) (destination : Option Text)
    (world : World) : Except Text World :=
  match logger with
  | silent => .ok world
  | recording => .ok { world with recorded := world.recorded ++ [(level, message)] }
  | failing failure => .error failure
  | host logger => logger.log level message destination world

/-- Logs a message if there is a logger, and notes it if the logger fails. -/
def safeLog (logger : Option Logger) (level : LogLevel) (message : Text)
    (destination : Option Text) (world : World) : World :=
  match logger with
  | none => world
  | some logger =>
    match logger.log level message destination world with
    | .ok world => world
    | .error failure =>
      { world with errorLines := world.errorLines ++ ["Logging error: ".toList ++ failure] }

end Logger

end LiveIni
