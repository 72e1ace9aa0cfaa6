import LiveIni.Document.Builder
import LiveIni.Document.Line
import LiveIni.Document.Output
import LiveIni.Document.Requirement
import LiveIni.Encoding.Codec
import LiveIni.Environment
import LiveIni.Inference
import LiveIni.Logger
import LiveIni.Sandbox

/-!
The pipeline from text to documents and back: parse, resolve anew, write, load from files and
dump into them, and check requirements. A document is substituted only after a trial of all
its values has passed. Every step may be logged.
-/

namespace LiveIni

/-- Why a step of the pipeline fails. -/
inductive PipelineFault where
  | rejected (violation : SecurityViolation)
  | evaluation (fault : Fault)
  /-- Placeholders are to be expanded, but there is no environment. -/
  | noEnvironment
  | inference (fault : InferenceFault)
  /-- An integer with too many digits is to be written. -/
  | digitLimit
  | fileAccess (path : Text) (reason : String)
  /-- A text is to be written in an encoding that is not known. -/
  | unknownEncoding (name : Text)
  /-- A file is to be read in an encoding that is not known. -/
  | encodingNotFound (name : Text)
  /-- An encoding does not map text to bytes. -/
  | notTextEncoding (name : Text)
  | decoding (fault : DecodeFault)
  /-- A codec fails to encode, though it lacks no character. -/
  | encoding (message : Text)
  | unknownMode (name : Text)
deriving DecidableEq, Repr

def PipelineFault.message : PipelineFault → String
  | rejected violation => violation.message
  | evaluation fault => fault.message
  | noEnvironment => "expand_environment requires an environment repository"
  | inference fault => fault.message
  | digitLimit => digitLimitMessage
  | fileAccess path reason => "Cannot access '" ++ path.string ++ "': " ++ reason
  | unknownEncoding name => "Unknown encoding " ++ name.quotedString
  | encodingNotFound name => "unknown encoding: " ++ name.string
  | notTextEncoding name =>
    name.quotedString ++
      " is not a text encoding; use codecs.open() to handle arbitrary codecs"
  | decoding fault => fault.message
  | encoding message => message.string
  | unknownMode name => name.quotedString ++ " is not a valid OutputMode"

/-- A step of the pipeline. What it has changed before it fails stays changed. -/
abbrev Action (α : Type) := ExceptT PipelineFault (StateM World) α

/-- What all steps have in common: among others the registry in which the names of encodings are
looked up, and the paths to which the system lets nothing be written, with the reasons. A trial
comes to its own end unless an interruption is set.
-/
structure Pipeline where
  format : NumberFormat := NumberFormat.invariant
  newline : Text := ['\n']
  timeLimit : Value := .double (Number.Double.ofInt 10)
  logger : Option Logger := none
  interruption : Option Interruption := none
  codecs : Codecs := Codecs.known
  refusal : Path → Option String := fun _ => none

namespace Action

/-- Runs a computation that may call operations. -/
def ofRun {α : Type} (run : Run α) : Action α := do
  let world ← get
  let (result, calls) := run.run world.calls
  set { world with calls := calls }
  match result with
  | .ok a => return a
  | .error fault => throw (.evaluation fault)

def render (v : TypedValue) : Action Text :=
  match v.render? with
  | some t => pure t
  | none => throw .digitLimit

end Action

namespace Pipeline

variable (p : Pipeline) (scope : Scope) (expand : Bool)

/-- Logs a message; it never fails. -/
def log (level : LogLevel) (message : Text) : Action Unit :=
  modify (Logger.safeLog p.logger level message none)

/-- Approves texts whose trial ended well, and rejects the others. -/
def judge (count : Nat) (trial : Trial) : Action Unit :=
  match trial.rejection? p.timeLimit with
  | none => p.log .debug ("Sandbox approved " ++ toString count ++ " values").toList
  | some (reason, violation) => do
    p.log .error ("Sandbox rejected substitution: " ++ reason).toList
    throw (.rejected violation)

/-- Approves texts, or rejects them all. An interrupted trial rejects them, whatever it would
have come to.
-/
def approve (texts : List Text) : Action Unit := do
  let world ← get
  let (trial, calls) := Trial.run scope texts world.calls
  set { world with calls := calls }
  p.judge texts.length (p.interruption.elim trial Interruption.trial)

/-- The value of a text with the type that it has. -/
def inferValue (t : Text) : Action (TypedValue × Option InvalidLiteral) :=
  match infer p.format t with
  | .ok result => return result
  | .error fault => throw (.inference fault)

/-- The typed value of a raw text: substituted, with placeholders expanded if that is asked
for, and given the type that it has. A number that fits no type stays text and is noted.
-/
def resolveValue (environment : Option Environment) (raw : Text)
    : Action (TypedValue × Option InvalidLiteral) := do
  let substituted ← Action.ofRun (scope.substitute raw)
  let text ←
    if expand then
      match environment with
      | some env => pure (env.expand substituted)
      | none => throw .noEnvironment
    else pure substituted
  p.inferValue text

def invalidNumber (line : Option Nat) (inSection key : Text) (literal : InvalidLiteral)
    : Diagnostic where
  kind := .invalidNumber
  message := (literal.message ++ "; kept as text").toList
  line := line
  inSection := some inSection
  key := some key

def duplicateKey (line : Nat) (inSection key : Text) : Diagnostic where
  kind := .duplicateKey
  message := "Duplicate key '".toList ++ key ++ "' in [".toList ++ inSection ++
    "]; last value wins".toList
  line := some line
  inSection := some inSection
  key := some key

/-- Notes a problem and logs it. -/
def report (b : Builder) (d : Diagnostic) : Action Builder := do
  p.log .warn d.text
  return b.report d

/-- Notes a number that fits no type, if there is one. -/
def reportInvalid (b : Builder) (line : Option Nat) (inSection key : Text)
    : Option InvalidLiteral → Action Builder
  | some literal => p.report b (invalidNumber line inSection key literal)
  | none => pure b

/-- Notes a key that occurs again, which is one that is not new. -/
def reportDuplicate (b : Builder) (number : Nat) (inSection key : Text) (new : Bool)
    : Action Builder :=
  if new then pure b else p.report b (duplicateKey number inSection key)

-----------------------------------------------------------------------------------------
-- Reading documents
-----------------------------------------------------------------------------------------

def addValue (b : Builder) (number : Nat) (inSection key raw : Text) : Action Builder := do
  let (typed, invalid) ← p.resolveValue scope expand (some scope.environment) raw
  let b ← p.reportInvalid b (some number) inSection key invalid
  let (b, new) := b.addEntry inSection key (.keyValue ⟨key, raw, typed⟩)
  let b ← p.reportDuplicate b number inSection key new
  let rendered ← Action.render typed
  p.log .debug (inSection ++ '.' :: key ++ " = ".toList ++ Text.quoted rendered ++ " (".toList ++
    typed.kindName.toList ++ [')'])
  return b

/-- Adds a line to a document. Malformed lines have been reported before. -/
def addLine (b : Builder) (l : PlacedLine) : Action Builder :=
  match l.line with
  | .blank => pure b
  | .malformed _ => pure b
  | .header name => do
    p.log .verbose ("Section [".toList ++ name ++ [']'])
    return b.openSection name
  | .comment text => return (b.addComment l.inSection text).1
  | .keyValue key raw => p.addValue scope expand b l.number l.inSection key raw

def parse (text : Text) : Action Document := do
  let lines := PlacedLine.ofText text
  let b ← (lines.filterMap (·.malformed?)).foldlM p.report ({} : Builder)
  let raws := lines.filterMap (·.raw?)
  p.approve scope raws
  let b ← lines.foldlM (p.addLine scope expand) b
  let d := b.build
  p.log .info ("Parsed " ++ toString d.sections.length ++ " sections, " ++
    toString raws.length ++ " values").toList
  return d

def cannotRead {α : Type} (path : Text) (reason : String) : Action α := do
  p.log .error ("Cannot read ".toList ++ path ++ ": ".toList ++ reason.toList)
  throw (.fileAccess path reason)

def readBytes (path : Text) : Action Bytes := do
  let world ← get
  match world.files.read (Path.ofText path) with
  | .ok bytes => return bytes
  | .error fault => p.cannotRead path (fault.message (Path.ofText path))

/-- The text that the bytes of a file encode, with its line ends as line feeds. -/
def decodeFile (path encoding : Text) (bytes : Bytes) : Action Text :=
  match p.codecs encoding with
  | none => throw (.encodingNotFound encoding)
  | some codec =>
    if !codec.isText then throw (.notTextEncoding encoding)
    else
      match codec.decode bytes with
      | .ok t => return Text.withLineFeeds t
      | .error (.malformed m) => p.cannotRead path m.message
      | .error fault => throw (.decoding fault)

/-- Reads a file as text with its line ends as line feeds. -/
def readFile (path encoding : Text) : Action Text := do
  p.decodeFile path encoding (← p.readBytes path)

def load (path encoding : Text) : Action Document := do
  p.log .verbose ("Reading ".toList ++ path)
  let text ← p.readFile path encoding
  p.parse scope expand text

-----------------------------------------------------------------------------------------
-- Resolving documents anew
-----------------------------------------------------------------------------------------

/-- Counts a value that is not the same as it was, and logs what it is now. -/
def countChange (inSection : Text) (kv : KeyValue) (typed : TypedValue) (changed : Nat)
    : Action Nat :=
  if typed.same kv.typed then pure changed
  else do
    let rendered ← Action.render typed
    p.log .debug (inSection ++ '.' :: kv.key ++ " changed to ".toList ++ Text.quoted rendered)
    return changed + 1

/-- Adds an entry of a document with its value resolved anew, and counts it if the value has
changed.
-/
def resolveEntry (inSection : Text) (state : Builder × Nat) (named : Text × Entry)
    : Action (Builder × Nat) := do
  let (b, changed) := state
  let (name, entry) := named
  match entry with
  | .comment _ => return ((b.addEntry inSection name entry).1, changed)
  | .keyValue kv =>
    let (typed, invalid) ← p.resolveValue scope expand (some scope.environment) kv.raw
    let b ← p.reportInvalid b none inSection kv.key invalid
    let changed ← p.countChange inSection kv typed changed
    return ((b.addEntry inSection name (.keyValue ⟨kv.key, kv.raw, typed⟩)).1, changed)

/-- Adds a section of a document with all its values resolved anew. -/
def resolveSection (state : Builder × Nat) (named : Text × Entries)
    : Action (Builder × Nat) := do
  let (b, changed) := state
  let (name, entries) := named
  entries.foldlM (p.resolveEntry scope expand name) (b.openSection name, changed)

/-- A document with all its values resolved anew. -/
def resolve (d : Document) : Action Document := do
  p.approve scope d.rawValues
  let (b, changed) ← d.sections.foldlM (p.resolveSection scope expand) (({} : Builder), 0)
  p.log .info ("Resolved document, " ++ toString changed ++ " values changed").toList
  return b.build

-----------------------------------------------------------------------------------------
-- Writing and checking documents
-----------------------------------------------------------------------------------------

/-- The text of a document in the form of a name. -/
def dumps (d : Document) (mode : Text) : Action Text :=
  match OutputMode.ofName? mode with
  | none => throw (.unknownMode mode)
  | some m =>
    match d.text? m p.newline with
    | some t => pure t
    | none => throw .digitLimit

/-- How a file is opened for a document. -/
def writeMode (append force : Bool) : Files.WriteMode :=
  if append then .extend else if force then .replace else .new

section

variable {α : Type}

def cannotWrite (path : Path) (reason : String) : Action α := do
  p.log .error ("Cannot write ".toList ++ path.text ++ ": ".toList ++ reason.toList)
  throw (.fileAccess path.text reason)

/-- Fails because a path cannot be written to. That something stands in the way is said in
words of its own.
-/
def pathRefused (path refused : Path) : PathFault → Action α
  | .exists => do
    p.log .error ("Refusing to overwrite ".toList ++ path.text)
    throw (.fileAccess path.text "file exists (use force to overwrite)")
  | fault => p.cannotWrite path (fault.message refused)

end

/-- Opens a file for writing, with which it is created or emptied, after making the directories
above it. Results in its place and in the content that is to be extended.
-/
def openFile (path : Path) (mode : Files.WriteMode) : Action (Path × Bytes) := do
  let world ← get
  match world.files.makeDirectories path.parent with
  | .error fault => p.pathRefused path path.parent fault
  | .ok made =>
    set { world with files := made }
    match p.refusal path, made.openForWriting path mode with
    | some reason, _ => p.cannotWrite path reason
    | none, .error fault => p.pathRefused path path fault
    | none, .ok (opened, place, content) =>
      set { world with files := opened }
      return (place, content)

/-- Encodes a text for the start of a file or for its end. The name of the encoding is looked up
once more, by whatever has opened the file.
-/
def encodeText (path : Path) (encoding : Text) (atStart : Bool) (text : Text) : Action Bytes :=
  match p.codecs encoding with
  | none => throw (.encodingNotFound encoding)
  | some codec =>
    if !codec.isText then throw (.notTextEncoding encoding)
    else
      match codec.encode atStart text with
      | .ok bytes => return bytes
      | .error (.unencodable u) => p.cannotWrite path u.message
      | .error (.foreign message) => throw (.encoding message)

/-- Writes a text to a file. The text is encoded only after the file has been opened. -/
def writeFile (path : Path) (mode : Files.WriteMode) (encoding text : Text) : Action Unit := do
  let (place, content) ← p.openFile path mode
  let bytes ← p.encodeText path encoding content.isEmpty text
  let world ← get
  set { world with files := world.files.write place (content ++ bytes) }

/-- Writes a document to a file, and says which one it was. The encoding goes by the name of its
codec.
-/
def dump (d : Document) (path mode encoding : Text) (append force : Bool) : Action Path := do
  match p.codecs encoding with
  | none => throw (.unknownEncoding encoding)
  | some codec =>
    let target := Path.ofText path
    let name := codec.name.toList
    let text ← p.dumps d mode
    p.writeFile target (writeMode append force) name text
    p.log .info ("Wrote ".toList ++ Text.ofNat d.sections.length ++ " sections to ".toList ++
      target.text ++ " (".toList ++ mode ++ ", ".toList ++ name ++ [')'])
    return target

/-- What a document lacks of what is required of it. -/
def validate (d : Document) (required : Requirements) : Action (List Diagnostic) := do
  let gaps := required.gaps d
  for gap in gaps do
    p.log .warn gap.message
  return gaps

end Pipeline

end LiveIni
