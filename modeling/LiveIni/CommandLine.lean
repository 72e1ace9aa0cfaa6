import LiveIni.CommandLine.Arguments
import LiveIni.CommandLine.Json
import LiveIni.Session

/-!
The command line. A run reads its settings from the environment, binds the variables that it
is given, loads a document and prints it, exports it or checks it. Faults of documents, files
and settings are reported; a few faults of another sort end the run without a report.
-/

namespace LiveIni

/-- Why a run ends early. -/
inductive CommandFault where
  | settings (invalid : List InvalidSetting)
  | locale (l : UnknownLocale)
  | pipeline (fault : PipelineFault)
deriving DecidableEq, Repr

namespace CommandFault

/-- Whether a fault is reported as an error of the input. -/
def isReported : CommandFault → Bool
  | pipeline (.evaluation (.unread .memory)) => false
  | pipeline (.evaluation (.unread .recursion)) => false
  | pipeline (.evaluation .outOfMemory) => false
  | pipeline (.evaluation fault) =>
    match fault.kind with
    | .decimal _ => false
    | _ => true
  | pipeline (.inference (.unknownWidth _)) => false
  | pipeline (.encodingNotFound _) => false
  | pipeline (.notTextEncoding _) => false
  | _ => true

def message : CommandFault → String
  | settings invalid =>
    "invalid settings: " ++ ", ".intercalate (invalid.map fun s =>
      s.field.string ++ " (" ++ s.fault.name ++ ")")
  | locale l => l.message
  | pipeline fault => fault.message

end CommandFault

/-- How a run ends: with a usage error, with an exit code and output, or with a fault. -/
inductive CommandResult where
  | usage
  | finished (code : Nat) (output : Text)
  | failed (fault : CommandFault)

namespace CommandResult

def exitCode : CommandResult → Nat
  | usage => 2
  | finished code _ => code
  | failed _ => 1

end CommandResult

namespace Command

/-- The world at the start of a run: the sinks of earlier runs are detached. -/
def startWorld (world : World) : World :=
  { world with hub := { world.hub.detachAll with hostAttached := true } }

/-- The session of a run; `none` in place of it is a usage error. -/
def session? (env : Environment) (assignments : List Text) (world : World)
    : Except CommandFault (Option Session) := do
  let settings ← (Settings.ofEnvironment env).mapError .settings
  match bindings? assignments with
  | none => return none
  | some bindings =>
    let scope : Scope := { bindings := bindings, environment := env }
    let session ← (Session.ofSettings settings scope (Session.hostLogger settings)).mapError
      .locale
    return some { session with world := world }

/-- Loads the document of a run, with the given choice of encoding and expansion. -/
def loadDocument (s : Session) (path : Text) (encoding : Option Text) (expand : Option Bool)
    : Action Document :=
  s.pipeline.load s.scope (s.expands expand) path (s.encodingFor encoding)

/-- What a command does in its session: an exit code and output. -/
def act (s : Session) : Command → Action (Nat × Text)
  | display path _ expand encoding types => do
    let d ← loadDocument s path encoding expand
    let json := if types then Json.ofTypedDocument d else Json.ofDocument d
    return (0, json.write 0 ++ ['\n'])
  | exportTo source target mode _ encoding append force => do
    let d ← loadDocument s source none none
    let path ← s.pipeline.dump d target mode.name.toList (s.encodingFor encoding) append force
    return (0, path.text ++ ['\n'])
  | validate path requirements => do
    let d ← loadDocument s path none none
    let gaps ← s.pipeline.validate d (Requirements.ofTexts requirements)
    let output := gaps.flatMap fun gap => gap.message ++ ['\n']
    return if gaps.isEmpty then (0, "OK\n".toList) else (1, output)

/-- A run with the given arguments and environment, and the world after it. A file that is a
directory is a usage error.
-/
def run (args : List Text) (env : Environment) (world : World) : CommandResult × World :=
  match ofArguments? args with
  | none => (.usage, world)
  | some command =>
    if command.files.any fun path => world.files.isDirectory (Path.ofText path) && !path.isEmpty
    then (.usage, world)
    else
      let world := startWorld world
      match session? env command.assignments world with
      | .error fault => (.failed fault, world)
      | .ok none => (.usage, world)
      | .ok (some session) =>
        match session.run (command.act session) with
        | (.ok (code, output), session) => (.finished code output, session.world)
        | (.error fault, session) => (.failed (.pipeline fault), session.world)

end Command

end LiveIni
