import LiveIni.Table

/-!
Log messages and where they go. A logger of the host program has a component name, a level and
possibly a log file of its own. Messages without a file are held back below that level. A
message for a file goes to the sink of that file, which keeps the level of the logger that
first wrote to it, and also to the host's own sink, which takes everything.
-/

namespace LiveIni

/-- The severities of messages. -/
inductive LogLevel where
  | error | warn | info | verbose | debug
deriving DecidableEq, Repr

namespace LogLevel

def name : LogLevel → String
  | error => "ERROR"
  | warn => "WARN"
  | info => "INFO"
  | verbose => "VERBOSE"
  | debug => "DEBUG"

def all : List LogLevel :=
  [error, warn, info, verbose, debug]

def ofName? (name : Text) : Option LogLevel :=
  all.find? (·.name.toList = name)

/-- The name of a level at the sinks. -/
def sinkName : LogLevel → String
  | warn => "WARNING"
  | level => level.name

def severity : LogLevel → Nat
  | error => 40
  | warn => 30
  | info => 20
  | verbose => 15
  | debug => 10

end LogLevel

/-- A message as a sink receives it. -/
structure LogRecord where
  level : LogLevel
  component : Text
  message : Text
deriving DecidableEq, Repr

/-- The line of a log file for a message, without the time. -/
def LogRecord.line (r : LogRecord) : Text :=
  let level := r.level.sinkName.toList
  level ++ List.replicate (7 - level.length) ' ' ++ " | ".toList ++ r.component ++
    " | ".toList ++ r.message ++ ['\n']

/-- A logger of the host program. -/
structure HostLogger where
  component : Text := "typed_ini".toList
  logFile : Option Text := none
  level : LogLevel := .info
deriving DecidableEq, Repr

/-- The sink of a log file. A sink that is no longer attached receives nothing. -/
structure FileSink where
  level : LogLevel
  attached : Bool := true
deriving DecidableEq, Repr

/-- The sinks of the host program: its own, with what it has received, and those of the log
files, by the resolved paths of the files.
-/
structure LogHub where
  hostAttached : Bool := true
  received : List LogRecord := []
  sinks : Table FileSink := []
deriving DecidableEq, Repr

namespace LogHub

/-- Forgets the sinks of all log files. -/
def closeFiles (hub : LogHub) : LogHub :=
  { hub with sinks := [] }

/-- Detaches all sinks. Those of log files stay known, so that they are not made anew. -/
def detachAll (hub : LogHub) : LogHub :=
  { hub with
    hostAttached := false
    sinks := hub.sinks.map fun (path, sink) => (path, { sink with attached := false }) }

end LogHub

end LiveIni
