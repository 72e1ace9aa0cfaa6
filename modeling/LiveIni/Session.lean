import LiveIni.Pipeline
import LiveIni.Settings

/-!
Sessions: a pipeline with the scope that it reads from, the documents that it has made, in
named slots, and the world that it acts on. Bindings, operations and the environment can
change between any two steps. An engine is a session that is set up by settings.
-/

namespace LiveIni

/-- A session. The encoding of a file is chosen by a rule of the session's own, which knows
whether one was given.
-/
structure Session where
  pipeline : Pipeline := {}
  expandByDefault : Bool := false
  encodingFor : Option Text → Text := fun e => e.getD "utf-8".toList
  scope : Scope := {}
  documents : Table Document := []
  world : World := {}

/-- A step of a session. A document is taken from one slot and put into another. -/
inductive SessionStep where
  | parse (text : Text) (expand : Option Bool) (into : Text)
  | load (path : Text) (encoding : Option Text) (expand : Option Bool) (into : Text)
  | resolve (doc : Text) (expand : Option Bool) (into : Text)
  | dumps (doc mode : Text)
  | roundTrip (doc mode : Text) (expand : Option Bool) (into : Text)
  | dump (doc path mode : Text) (encoding : Option Text) (append force : Bool)
  | validate (doc : Text) (required : Requirements)
  | change (c : ScopeChange)
  /-- From now on every trial is interrupted in this way, or none is. -/
  | interrupt (interruption : Option Interruption)

/-- Why a step fails. -/
inductive SessionFault where
  | noDocument (slot : Text)
  | pipeline (fault : PipelineFault)
deriving DecidableEq, Repr

inductive Outcome where
  | done
  | document (d : Document)
  | text (t : Text)
  | roundTrip (t : Text) (equal : Bool) (d : Document)
  | path (p : Path)
  | gaps (diagnostics : List Diagnostic)

namespace Session

/-- Runs an action of the pipeline on the session's world. -/
def run {α : Type} (s : Session) (action : Action α) : Except PipelineFault α × Session :=
  let (result, world) := action.run s.world
  (result, { s with world := world })

/-- Puts a document into a slot. -/
def put (s : Session) (slot : Text) (d : Document) : Session :=
  { s with documents := s.documents.set slot d }

/-- Whether to expand placeholders, as given or by default. -/
def expands (s : Session) (given : Option Bool) : Bool :=
  given.getD s.expandByDefault

/-- Runs an action that makes a document, and puts the document into a slot. -/
def make (s : Session) (into : Text) (action : Action Document)
    : Except SessionFault Outcome × Session :=
  match s.run action with
  | (.ok d, s) => (.ok (.document d), s.put into d)
  | (.error fault, s) => (.error (.pipeline fault), s)

/-- Runs an action that makes no document. -/
def report {α : Type} (s : Session) (outcome : α → Outcome) (action : Action α)
    : Except SessionFault Outcome × Session :=
  match s.run action with
  | (.ok a, s) => (.ok (outcome a), s)
  | (.error fault, s) => (.error (.pipeline fault), s)

/-- Does something with the document of a slot. -/
def withDocument (s : Session) (slot : Text)
    (f : Document → Except SessionFault Outcome × Session)
    : Except SessionFault Outcome × Session :=
  match s.documents.get? slot with
  | some d => f d
  | none => (.error (.noDocument slot), s)

/-- A step of a session. -/
def step (s : Session) : SessionStep → Except SessionFault Outcome × Session
  | .parse text expand into => s.make into (s.pipeline.parse s.scope (s.expands expand) text)
  | .load path encoding expand into =>
    s.make into (s.pipeline.load s.scope (s.expands expand) path (s.encodingFor encoding))
  | .resolve doc expand into =>
    s.withDocument doc fun d => s.make into (s.pipeline.resolve s.scope (s.expands expand) d)
  | .dumps doc mode => s.withDocument doc fun d => s.report .text (s.pipeline.dumps d mode)
  | .roundTrip doc mode expand into =>
    s.withDocument doc fun d =>
      let action : Action (Text × Document) := do
        let text ← s.pipeline.dumps d mode
        return (text, ← s.pipeline.parse s.scope (s.expands expand) text)
      match s.run action with
      | (.ok (text, again), s) => (.ok (.roundTrip text (again.same d) again), s.put into again)
      | (.error fault, s) => (.error (.pipeline fault), s)
  | .dump doc path mode encoding append force =>
    s.withDocument doc fun d =>
      s.report .path (s.pipeline.dump d path mode (s.encodingFor encoding) append force)
  | .validate doc required =>
    s.withDocument doc fun d => s.report .gaps (s.pipeline.validate d required)
  | .change c => (.ok .done, { s with scope := s.scope.change c })
  | .interrupt interruption =>
    (.ok .done, { s with pipeline := { s.pipeline with interruption := interruption } })

/-- The session after some steps, whatever each of them results in. -/
def steps (s : Session) (steps : List SessionStep) : Session :=
  steps.foldl (fun s step => (s.step step).2) s

/-- The logger that settings describe. -/
def hostLogger (settings : Settings) : Logger :=
  .host { logFile := settings.logFile, level := settings.logLevel }

/-- The session of an engine. An encoding that is given as an empty text counts as not given.
The settings decide whether references must be bound.
-/
def ofSettings (settings : Settings) (scope : Scope) (logger : Logger)
    (codecs : Codecs := Codecs.known)
    : Except UnknownLocale Session := do
  let format ← settings.numberFormat
  return {
    pipeline := {
      format := format
      timeLimit := .double settings.timeLimit
      logger := some logger
      codecs := codecs }
    expandByDefault := settings.expandEnvironment
    encodingFor := fun e => (e.filter (!·.isEmpty)).getD settings.encoding.name.toList
    scope := { scope with strict := settings.strict } }

end Session

end LiveIni
