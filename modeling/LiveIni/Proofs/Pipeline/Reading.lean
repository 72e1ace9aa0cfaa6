import LiveIni.Proofs.Pipeline.Settling
import LiveIni.Proofs.Restriction.Trial

/-!
What reading a document comes to, without worlds, loggers and calls. First all raw texts are
judged, then each line is stored with the value that its raw text settles to. The pipeline's
own reading settles to just that.
-/

namespace LiveIni

/-- A typed value, with the literal that it was kept as text for. -/
abbrev Reading := TypedValue × Option InvalidLiteral

namespace Builder

/-- Notes a number that fits no type, if there is one. -/
def noteInvalid (b : Builder) (line : Option Nat) (inSection key : Text)
    : Option InvalidLiteral → Builder
  | some literal => b.report (Pipeline.invalidNumber line inSection key literal)
  | none => b

/-- Stores a key with its reading, and notes what is wrong with it. -/
def storeValue (b : Builder) (number : Nat) (inSection key raw : Text) (reading : Reading)
    : Builder :=
  let noted := b.noteInvalid (some number) inSection key reading.2
  let (stored, new) := noted.addEntry inSection key (.keyValue ⟨key, raw, reading.1⟩)
  if new then stored else stored.report (Pipeline.duplicateKey number inSection key)

/-- Stores a line, where every raw text has the given reading. -/
def storeLine (readings : Text → Reading) (b : Builder) (l : PlacedLine) : Builder :=
  match l.line with
  | .blank => b
  | .malformed _ => b
  | .header name => b.openSection name
  | .comment text => (b.addComment l.inSection text).1
  | .keyValue key raw => b.storeValue l.number l.inSection key raw (readings raw)

/-- A builder that has noted the malformed lines and stored nothing yet. -/
def ofMalformed (lines : List PlacedLine) : Builder :=
  (lines.filterMap (·.malformed?)).foldl report {}

end Builder

namespace Pipeline

variable (p : Pipeline) (scope : Scope) (expand : Bool)

-----------------------------------------------------------------------------------------
-- The judgement of a document
-----------------------------------------------------------------------------------------

/-- What an ended trial decides. -/
def judgement (trial : Trial) : Except PipelineFault Unit :=
  match trial.rejection? p.timeLimit with
  | none => .ok ()
  | some (_, violation) => .error (.rejected violation)

theorem judge_settles (count : Nat) (trial : Trial)
    : (p.judge count trial).Settles (p.judgement trial) := by
  unfold judge judgement
  cases trial.rejection? p.timeLimit with
  | none => exact p.log_settles _ _
  | some rejection => exact (p.log_settles _ _).bind_ok (.throw _)

def verdict (texts : List Text) : Except PipelineFault Unit :=
  p.judgement
    (p.interruption.elim (Trial.ofResult (Trial.result scope texts)) Interruption.trial)

/-- Approval settles to the verdict. -/
theorem approve_settles (texts : List Text)
    : (p.approve scope texts).Settles (p.verdict scope texts) := by
  intro world
  have seen : (get : Action World) world = (.ok world, world) := rfl
  have kept : (set world : Action PUnit) world = (.ok PUnit.unit, world) := rfl
  unfold approve
  rw [Computation.bind_of_ok seen, Trial.run_eq]
  dsimp only
  rw [Computation.bind_of_ok kept]
  exact p.judge_settles _ _ world

/-- Texts are approved exactly if the trial is not interrupted and all of them settle. -/
theorem verdict_eq_ok_iff (texts : List Text)
    : p.verdict scope texts = .ok ()
      ↔ p.interruption = none ∧ ∀ t ∈ texts, ∃ s, scope.settled t = .ok s := by
  rw [← Trial.result_eq_ok_iff]
  unfold verdict judgement
  cases p.interruption with
  | some interruption => cases interruption <;> simp [Interruption.trial, Trial.rejection?]
  | none =>
      cases Trial.result scope texts <;>
        simp [Trial.ofResult, Trial.rejection?]

/-- Approved texts settle. -/
theorem settled_of_verdict {p : Pipeline} {scope : Scope} {texts : List Text} {t : Text}
    (approved : p.verdict scope texts = .ok ()) (member : t ∈ texts)
    : ∃ s, scope.settled t = .ok s :=
  ((p.verdict_eq_ok_iff scope texts).mp approved).2 t member

-----------------------------------------------------------------------------------------
-- The value of a raw text
-----------------------------------------------------------------------------------------

/-- What a raw text stands for, once it has been approved. -/
def meaning (raw : Text) : Except PipelineFault Reading :=
  match scope.settled raw with
  | .error fault => .error (.evaluation fault)
  | .ok s =>
    (infer p.format (if expand then scope.environment.expand s else s)).mapError .inference

/-- The reading of a raw text that is approved, which must also be fit to be written. -/
def admitted (raw : Text) : Except PipelineFault Reading := do
  let reading ← p.meaning scope expand raw
  if reading.1.render?.isSome then return reading else throw .digitLimit

/-- The readings of raw texts that have one. -/
def readings (raw : Text) : Reading :=
  (p.meaning scope expand raw).toOption.getD default

theorem readings_of_meaning {p : Pipeline} {scope : Scope} {expand : Bool} {raw : Text}
    {reading : Reading} (read : p.meaning scope expand raw = .ok reading)
    : p.readings scope expand raw = reading := by
  rw [readings, read]
  rfl

theorem inferValue_settles (t : Text)
    : (p.inferValue t).Settles ((infer p.format t).mapError .inference) := by
  unfold inferValue
  cases infer p.format t with
  | ok reading => exact .pure reading
  | error fault => exact .throw _

/-- An approved raw text is resolved to its meaning. -/
theorem resolveValue_settles {raw s : Text} (settled : scope.settled raw = .ok s)
    : (p.resolveValue scope expand (some scope.environment) raw).Settles
        (p.meaning scope expand raw) := by
  unfold resolveValue meaning
  rw [settled]
  refine (Action.Settles.ofRun (Scope.substitute_gives_of_settled settled)).bind_ok ?_
  cases expand with
  | true => exact p.inferValue_settles (scope.environment.expand s)
  | false => exact p.inferValue_settles s

theorem render_settles (v : TypedValue)
    : (Action.render v).Settles
        (match v.render? with
          | some t => .ok t
          | none => .error .digitLimit) := by
  unfold Action.render
  cases v.render? with
  | some t => exact .pure t
  | none => exact .throw _

theorem report_settles (b : Builder) (d : Diagnostic) : (p.report b d).Settles (.ok (b.report d)) :=
  (p.log_settles .warn d.text).bind_ok (.pure _)

/-- Stores a line whose raw text, if it has one, is admitted. -/
def readLine (b : Builder) (l : PlacedLine) : Except PipelineFault Builder :=
  match l.raw? with
  | none => .ok (b.storeLine (p.readings scope expand) l)
  | some raw => do
    let _ ← p.admitted scope expand raw
    return b.storeLine (p.readings scope expand) l

/-- What a text is read as. -/
def parsed (text : Text) : Except PipelineFault Document := do
  let lines := PlacedLine.ofText text
  p.verdict scope (lines.filterMap (·.raw?))
  let b ← lines.foldlM (p.readLine scope expand) (.ofMalformed lines)
  return b.build

theorem reportInvalid_settles (b : Builder) (line : Option Nat) (inSection key : Text)
    (invalid : Option InvalidLiteral)
    : (p.reportInvalid b line inSection key invalid).Settles
        (.ok (b.noteInvalid line inSection key invalid)) := by
  cases invalid with
  | some literal => exact p.report_settles _ _
  | none => exact .pure b

theorem reportDuplicate_settles (b : Builder) (number : Nat) (inSection key : Text) (new : Bool)
    : (p.reportDuplicate b number inSection key new).Settles
        (.ok (if new then b else b.report (duplicateKey number inSection key))) := by
  cases new with
  | true => exact .pure b
  | false => exact p.report_settles _ _

/-- A key and a value are stored with the reading of the raw text.
Witness: each note and each log line settles, and the value is written after it is stored, so
that its failure leaves no builder.
-/
theorem addValue_settles {raw s : Text} (settled : scope.settled raw = .ok s) (b : Builder)
    (number : Nat) (inSection key : Text)
    : (p.addValue scope expand b number inSection key raw).Settles
        (p.readLine scope expand b ⟨number, inSection, .keyValue key raw⟩) := by
  have resolved := p.resolveValue_settles scope expand settled
  unfold addValue readLine admitted PlacedLine.raw?
  dsimp only
  cases read : p.meaning scope expand raw with
  | error fault =>
      rw [read] at resolved
      exact resolved.bind_error _
  | ok reading =>
      rw [read] at resolved
      refine resolved.bind_ok ?_
      refine (p.reportInvalid_settles b (some number) inSection key reading.2).bind_ok ?_
      refine (p.reportDuplicate_settles _ number inSection key _).bind_ok ?_
      -- The value is stored before it is written to the log, which may be the step that fails.
      have written := render_settles reading.1
      change Action.Settles _ ((if reading.1.render?.isSome then .ok reading
        else .error .digitLimit : Except PipelineFault Reading) >>= _)
      cases rendered : reading.1.render? with
      | none =>
          rw [rendered] at written
          exact written.bind_error _
      | some t =>
          rw [rendered] at written
          refine written.bind_ok ((p.log_settles _ _).bind_ok ?_)
          unfold Builder.storeLine Builder.storeValue
          dsimp only
          rw [readings_of_meaning read]
          exact .pure _

/-- A line is added as it is read, if its raw text has been approved. -/
theorem addLine_settles (b : Builder) (l : PlacedLine)
    (approved : ∀ raw, l.raw? = some raw → ∃ s, scope.settled raw = .ok s)
    : (p.addLine scope expand b l).Settles (p.readLine scope expand b l) := by
  obtain ⟨number, inSection, line⟩ := l
  cases line with
  | blank => exact .pure b
  | header name => exact (p.log_settles _ _).bind_ok (.pure _)
  | comment text => exact .pure _
  | keyValue key raw =>
      obtain ⟨s, settled⟩ := approved raw rfl
      exact p.addValue_settles scope expand settled b number inSection key
  | malformed text => exact .pure b

theorem reportMalformed_settles (lines : List PlacedLine)
    : ((lines.filterMap (·.malformed?)).foldlM p.report ({} : Builder)).Settles
        (.ok (.ofMalformed lines)) := by
  have folded (diagnostics : List Diagnostic) (b : Builder)
      : diagnostics.foldlM (fun b d => .ok (b.report d)) b
        = (.ok (diagnostics.foldl Builder.report b) : Except PipelineFault Builder) :=
    List.foldlM_pure
  rw [Builder.ofMalformed, ← folded]
  exact .foldlM (fun b d _ => p.report_settles b d) {}

/-- Parsing settles to what the text is read as, in every world and with every logger. -/
theorem parse_settles (text : Text)
    : (p.parse scope expand text).Settles (p.parsed scope expand text) := by
  unfold parse parsed
  dsimp only
  refine (p.reportMalformed_settles _).bind_ok ?_
  refine (p.approve_settles scope _).bind fun _ approved => ?_
  refine (Action.Settles.foldlM ?_ _).bind fun b _ => (p.log_settles _ _).bind_ok (.pure _)
  intro b l member
  refine p.addLine_settles scope expand b l fun raw found => ?_
  exact settled_of_verdict approved (List.mem_filterMap.mpr ⟨l, member, found⟩)

-----------------------------------------------------------------------------------------
-- When a text is read, and as what
-----------------------------------------------------------------------------------------

/-- The raw text is approved, means something, and what it means can be written. -/
def Admits (raw : Text) : Prop :=
  ∃ reading, p.admitted scope expand raw = .ok reading

variable {p scope expand}

/-- What is admitted has a meaning that can be written. -/
theorem admitted_eq_ok_iff {raw : Text} {reading : Reading}
    : p.admitted scope expand raw = .ok reading
      ↔ p.meaning scope expand raw = .ok reading ∧ reading.1.render?.isSome := by
  unfold admitted
  rw [Computation.bind_eq_ok_iff]
  constructor
  · rintro ⟨found, meant, fits⟩
    split at fits
    · next written =>
        cases fits
        exact ⟨meant, written⟩
    · cases fits
  · rintro ⟨meant, written⟩
    exact ⟨reading, meant, if_pos written⟩

/-- What is admitted is read as its reading. -/
theorem Admits.meaning {raw : Text} (admits : p.Admits scope expand raw)
    : p.meaning scope expand raw = .ok (p.readings scope expand raw)
      ∧ (p.readings scope expand raw).1.render?.isSome := by
  obtain ⟨reading, admitted⟩ := admits
  obtain ⟨read, written⟩ := admitted_eq_ok_iff.mp admitted
  rw [readings_of_meaning read]
  exact ⟨read, written⟩

theorem settled_of_meaning {raw : Text} {reading : Reading}
    (read : p.meaning scope expand raw = .ok reading)
    : ∃ s, scope.settled raw = .ok s := by
  unfold Pipeline.meaning at read
  cases settled : scope.settled raw with
  | ok s => exact ⟨s, rfl⟩
  | error fault =>
      rw [settled] at read
      cases read

/-- A line is read exactly if its raw text, where it has one, is admitted; it is then stored with
the reading of its raw text.
-/
theorem readLine_eq_ok_iff {b next : Builder} {l : PlacedLine}
    : p.readLine scope expand b l = .ok next
      ↔ (∀ raw, l.raw? = some raw → p.Admits scope expand raw)
        ∧ next = b.storeLine (p.readings scope expand) l := by
  unfold readLine Admits
  cases l.raw? with
  | none => simp [eq_comm]
  | some raw =>
      dsimp only
      rw [Computation.bind_eq_ok_iff]
      constructor
      · rintro ⟨reading, admitted, stored⟩
        cases stored
        exact ⟨fun _ same => Option.some.inj same ▸ ⟨reading, admitted⟩, rfl⟩
      · rintro ⟨admits, rfl⟩
        obtain ⟨reading, admitted⟩ := admits raw rfl
        exact ⟨reading, admitted, rfl⟩

/-- Texts that are all admitted are approved, unless the trial is interrupted. -/
theorem verdict_of_admits {texts : List Text} (running : p.interruption = none)
    (admits : ∀ raw ∈ texts, p.Admits scope expand raw)
    : p.verdict scope texts = .ok () := by
  refine (p.verdict_eq_ok_iff scope texts).mpr ⟨running, fun raw member => ?_⟩
  exact settled_of_meaning (admits raw member).meaning.1

/-- Lines are read exactly if all their raw texts are admitted; they are then stored in order. -/
theorem foldlM_readLine_eq_ok_iff {lines : List PlacedLine} {b next : Builder}
    : lines.foldlM (p.readLine scope expand) b = .ok next
      ↔ (∀ raw ∈ lines.filterMap (·.raw?), p.Admits scope expand raw)
        ∧ next = lines.foldl (Builder.storeLine (p.readings scope expand)) b := by
  have stored {next : Builder} (read : lines.foldlM (p.readLine scope expand) b = .ok next)
      : next = lines.foldl (Builder.storeLine (p.readings scope expand)) b :=
    Computation.view_of_foldlM id (fun _ _ _ read => (readLine_eq_ok_iff.mp read).2) read
  constructor
  · intro read
    refine ⟨fun raw member => ?_, stored read⟩
    obtain ⟨l, inLines, found⟩ := List.mem_filterMap.mp member
    obtain ⟨before, after, ran⟩ := Computation.succeeds_of_foldlM read l inLines
    exact (readLine_eq_ok_iff.mp ran).1 raw found
  · rintro ⟨admits, rfl⟩
    have steps (b : Builder) (l : PlacedLine) (member : l ∈ lines)
        : ∃ next, p.readLine scope expand b l = .ok next := by
      refine ⟨_, readLine_eq_ok_iff.mpr ⟨fun raw found => ?_, rfl⟩⟩
      exact admits raw (List.mem_filterMap.mpr ⟨l, member, found⟩)
    obtain ⟨next, read⟩ := Computation.foldlM_succeeds steps b
    rw [read, stored read]

/-- A text is read exactly if no trial is interrupted and every raw text in it is admitted. Its
lines are then stored in order, after the malformed ones have been noted.
-/
theorem parsed_eq_ok_iff {text : Text} {d : Document}
    : p.parsed scope expand text = .ok d
      ↔ p.interruption = none
        ∧ (∀ raw ∈ (PlacedLine.ofText text).filterMap (·.raw?), p.Admits scope expand raw)
        ∧ d = ((PlacedLine.ofText text).foldl (Builder.storeLine (p.readings scope expand))
            (.ofMalformed (PlacedLine.ofText text))).build := by
  unfold parsed
  dsimp only
  rw [Computation.bind_eq_ok_iff]
  constructor
  · rintro ⟨_, approved, read⟩
    obtain ⟨b, folded, built⟩ := Computation.bind_eq_ok_iff.mp read
    obtain ⟨admits, rfl⟩ := foldlM_readLine_eq_ok_iff.mp folded
    cases built
    exact ⟨((p.verdict_eq_ok_iff scope _).mp approved).1, admits, rfl⟩
  · rintro ⟨running, admits, rfl⟩
    refine ⟨(), verdict_of_admits running admits, Computation.bind_eq_ok_iff.mpr ?_⟩
    exact ⟨_, foldlM_readLine_eq_ok_iff.mpr ⟨admits, rfl⟩, rfl⟩

end Pipeline

end LiveIni
