import LiveIni.Proofs.Pipeline.Loggers
import LiveIni.Session

/-!
A session beside the same session with another logger. Whatever is done in both of them, step after
step, they come to the same outcomes, with the same documents and files, as long as neither
logger has a log file.
-/

namespace LiveIni

/-- What is done in a session: one of its steps, or the mere trial of some texts. -/
inductive SessionMove where
  | step (step : SessionStep)
  | trial (texts : List Text)

namespace Session

def move (s : Session) : SessionMove → Except SessionFault Outcome × Session
  | .step step => s.step step
  | .trial texts => s.report (fun _ => .done) (s.pipeline.approve s.scope texts)

/-- What moves come to, one after the other, and the session that they leave. A move that fails
does not keep the others from being made.
-/
def moves (s : Session) : List SessionMove → List (Except SessionFault Outcome) × Session
  | [] => ([], s)
  | move :: rest =>
    let (outcome, next) := s.move move
    let (outcomes, last) := next.moves rest
    (outcome :: outcomes, last)

/-- The session with another logger, in another world. -/
def on (s : Session) (logger : Option Logger) (world : World) : Session :=
  { s with pipeline := s.pipeline.withLogger logger, world := world }

@[simp]
theorem on_documents (s : Session) (logger : Option Logger) (world : World)
    : (s.on logger world).documents = s.documents :=
  rfl

variable {s : Session} {first second : Option Logger} {world beside : World} {α : Type}

/-- Two results of moves: one outcome, and one session with either logger, in worlds that are alike.
-/
def Paired (first second : Option Logger) (a b : Except SessionFault Outcome × Session) : Prop :=
  ∃ outcome next world beside,
    a = (outcome, on next first world)
    ∧ b = (outcome, on next second beside)
    ∧ world.Alike beside

/-- Actions that agree have the same result in both sessions, and leave worlds that are alike. -/
theorem run_agrees {action other : Action α} (agrees : action.Agrees other)
    (alike : world.Alike beside)
    : ∃ result after otherAfter,
        (s.on first world).run action = (result, s.on first after)
        ∧ (s.on second beside).run other = (result, s.on second otherAfter)
        ∧ after.Alike otherAfter := by
  obtain ⟨same, left⟩ := agrees world beside alike
  refine ⟨(action world).1, (action world).2, (other beside).2, rfl, ?_, left⟩
  rw [same]
  rfl

/-- Actions that agree make the same document in both sessions, or fail in the same way. -/
theorem make_paired {action other : Action Document} (agrees : action.Agrees other)
    (alike : world.Alike beside) (into : Text)
    : Paired first second ((s.on first world).make into action)
        ((s.on second beside).make into other) := by
  obtain ⟨result, after, otherAfter, ran, otherRan, left⟩ := run_agrees agrees alike
  unfold make
  rw [ran, otherRan]
  cases result with
  | ok d => exact ⟨_, s.put into d, after, otherAfter, rfl, rfl, left⟩
  | error fault => exact ⟨_, s, after, otherAfter, rfl, rfl, left⟩

theorem report_paired {action other : Action α} (agrees : action.Agrees other)
    (alike : world.Alike beside) (outcome : α → Outcome)
    : Paired first second ((s.on first world).report outcome action)
        ((s.on second beside).report outcome other) := by
  obtain ⟨result, after, otherAfter, ran, otherRan, left⟩ := run_agrees agrees alike
  unfold report
  rw [ran, otherRan]
  cases result with
  | ok a => exact ⟨_, s, after, otherAfter, rfl, rfl, left⟩
  | error fault => exact ⟨_, s, after, otherAfter, rfl, rfl, left⟩

/-- The sessions have the same document in a slot, or neither has one. -/
theorem withDocument_paired {f g : Document → Except SessionFault Outcome × Session}
    (alike : world.Alike beside) (slot : Text) (pairs : ∀ d, Paired first second (f d) (g d))
    : Paired first second ((s.on first world).withDocument slot f)
        ((s.on second beside).withDocument slot g) := by
  simp only [withDocument, on_documents]
  cases s.documents.get? slot with
  | some d => exact pairs d
  | none => exact ⟨_, s, world, beside, rfl, rfl, alike⟩

section Moves

variable (spares₁ : Logger.sparesFiles first = true) (spares₂ : Logger.sparesFiles second = true)

include spares₁ spares₂

/-- Writing a document and parsing the text comes to the same with either logger. -/
theorem rewrite_agrees (s : Session) (world beside : World) (d : Document) (mode : Text)
    (expand : Option Bool)
    : Action.Agrees (do
          let text ← (s.on first world).pipeline.dumps d mode
          return (text, ← (s.on first world).pipeline.parse (s.on first world).scope
            ((s.on first world).expands expand) text))
        (do
          let text ← (s.on second beside).pipeline.dumps d mode
          return (text, ← (s.on second beside).pipeline.parse (s.on second beside).scope
            ((s.on second beside).expands expand) text)) :=
  .bind (Pipeline.dumps_agrees d mode) fun text =>
    (Pipeline.parse_agrees spares₁ spares₂ text).bind fun again => .pure (text, again)

/-- A single step comes to the same with either logger, by cases on what it does. -/
theorem step_paired (alike : world.Alike beside) (step : SessionStep)
    : Paired first second ((s.on first world).step step) ((s.on second beside).step step) := by
  cases step with
  | parse text expand into =>
      exact make_paired (Pipeline.parse_agrees spares₁ spares₂ text) alike into
  | load path encoding expand into =>
      exact make_paired (Pipeline.load_agrees spares₁ spares₂ path _) alike into
  | resolve doc expand into =>
      exact withDocument_paired alike doc fun d =>
        make_paired (Pipeline.resolve_agrees spares₁ spares₂ d) alike into
  | dumps doc mode =>
      exact withDocument_paired alike doc fun d =>
        report_paired (Pipeline.dumps_agrees d mode) alike _
  | roundTrip doc mode expand into =>
      refine withDocument_paired alike doc fun d => ?_
      obtain ⟨result, after, otherAfter, ran, otherRan, left⟩ := run_agrees (s := s)
        (rewrite_agrees spares₁ spares₂ s world beside d mode expand) alike
      dsimp only
      rw [ran, otherRan]
      cases result with
      | ok pair => exact ⟨_, s.put into pair.2, after, otherAfter, rfl, rfl, left⟩
      | error fault => exact ⟨_, s, after, otherAfter, rfl, rfl, left⟩
  | dump doc path mode encoding append force =>
      exact withDocument_paired alike doc fun d =>
        report_paired (Pipeline.dump_agrees spares₁ spares₂ d path mode _ append force) alike _
  | validate doc required =>
      exact withDocument_paired alike doc fun d =>
        report_paired (Pipeline.validate_agrees spares₁ spares₂ d required) alike _
  | change c => exact ⟨_, { s with scope := s.scope.change c }, world, beside, rfl, rfl, alike⟩
  | interrupt interruption =>
      exact ⟨_, { s with pipeline := { s.pipeline with interruption := interruption } }, world,
        beside, rfl, rfl, alike⟩

theorem move_paired (alike : world.Alike beside) (move : SessionMove)
    : Paired first second ((s.on first world).move move) ((s.on second beside).move move) := by
  cases move with
  | step step => exact step_paired spares₁ spares₂ alike step
  | trial texts => exact report_paired (Pipeline.approve_agrees spares₁ spares₂ texts) alike _

/-- Any moves come to the same outcomes with either logger, by induction on the moves. -/
theorem moves_paired (alike : world.Alike beside) (moves : List SessionMove)
    : ∃ outcomes next after otherAfter,
        (s.on first world).moves moves = (outcomes, on next first after)
        ∧ (s.on second beside).moves moves = (outcomes, on next second otherAfter)
        ∧ after.Alike otherAfter := by
  induction moves generalizing s world beside with
  | nil => exact ⟨[], s, world, beside, rfl, rfl, alike⟩
  | cons move rest ih =>
      obtain ⟨outcome, next, after, otherAfter, moved, otherMoved, left⟩ :=
        move_paired (s := s) spares₁ spares₂ alike move
      obtain ⟨outcomes, last, final, otherFinal, went, otherWent, still⟩ := ih (s := next) left
      refine ⟨outcome :: outcomes, last, final, otherFinal, ?_, ?_, still⟩
      · rw [moves, moved]
        dsimp only
        rw [went]
      · rw [moves, otherMoved]
        dsimp only
        rw [otherWent]

end Moves

/-- Whatever is done in a session, its logger makes no difference: with any two loggers that have no
log file, one of which may be missing, discard all messages, keep them, or fail each time, the
same moves come to the same outcomes, which are the documents with their diagnostics, the
texts, the gaps and the faults, and they leave the same documents, the same files, and the
same calls.
Witness: a message changes nothing that a later step looks at.
-/
theorem moves_eq_with_other_logger (spares₁ : Logger.sparesFiles first = true)
    (spares₂ : Logger.sparesFiles second = true) (s : Session) (moves : List SessionMove)
    : let one := (s.on first s.world).moves moves
      let other := (s.on second s.world).moves moves
      one.1 = other.1
        ∧ one.2.documents = other.2.documents
        ∧ one.2.scope = other.2.scope
        ∧ one.2.world.files = other.2.world.files
        ∧ one.2.world.calls = other.2.world.calls := by
  have alike : s.world.Alike s.world := ⟨rfl, rfl⟩
  obtain ⟨outcomes, next, after, otherAfter, went, otherWent, left⟩ :=
    moves_paired (s := s) spares₁ spares₂ alike moves
  rw [went, otherWent]
  exact ⟨rfl, rfl, rfl, left.files, left.calls⟩

/-- A text with a line that cannot be read is parsed and dumped, and a text is tried in vain. -/
def noisyMoves : List SessionMove :=
  [.step (.parse "k=$x\nbroken".toList none ['d']),
   .step (.dump ['d'] "f.ini".toList "expanded".toList none false false),
   .trial ["$\x7bx".toList]]

/-- A logger that keeps all messages and one that fails each time. The first has been given six
messages, the second has failed six times, and there is one file.
-/
theorem moves_eq_with_other_logger_noisyMoves
    : let s : Session := { scope := { bindings := [(['x'], .value (.int 7))] } }
      let one := (s.on (some .recording) s.world).moves noisyMoves
      let other := (s.on (some (.failing "full".toList)) s.world).moves noisyMoves
      Logger.sparesFiles (some .recording) = true
        ∧ Logger.sparesFiles (some (.failing "full".toList)) = true
        ∧ one.1 = other.1
        ∧ one.2.documents = other.2.documents
        ∧ one.2.world.files = other.2.world.files
        ∧ one.2.world.files = [("f.ini".toList, .file (Text.utf8 "k=7\n\n".toList))]
        ∧ one.2.world.recorded.length = 6
        ∧ other.2.world.errorLines.length = 6 := by
  have recording : Logger.sparesFiles (some .recording) = true := rfl
  have failing : Logger.sparesFiles (some (.failing "full".toList)) = true := rfl
  obtain ⟨outcomes, documents, _, files, _⟩ := moves_eq_with_other_logger recording failing
    { scope := { bindings := [(['x'], .value (.int 7))] } } noisyMoves
  exact ⟨recording, failing, outcomes, documents, files, by decide +kernel, by decide +kernel,
    by decide +kernel⟩

end Session

end LiveIni
