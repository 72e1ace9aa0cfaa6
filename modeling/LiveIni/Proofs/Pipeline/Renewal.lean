import LiveIni.Proofs.Pipeline.Reading

/-!
What resolving a document anew comes to, without worlds, loggers and calls. All raw texts are
judged first, and then every entry is stored again under its own name, a key with what its raw
text means by now.
-/

namespace LiveIni

namespace Builder

/-- Stores an entry again, where every raw text has the given reading. -/
def renewEntry (readings : Text → Reading) (inSection : Text) (b : Builder)
    (named : Text × Entry)
    : Builder :=
  match named.2 with
  | .comment text => (b.addEntry inSection named.1 (.comment text)).1
  | .keyValue kv =>
    let noted := b.noteInvalid none inSection kv.key (readings kv.raw).2
    (noted.addEntry inSection named.1 (.keyValue ⟨kv.key, kv.raw, (readings kv.raw).1⟩)).1

/-- Opens a section again, and stores its entries in it. -/
def renewSection (readings : Text → Reading) (b : Builder) (named : Text × Entries) : Builder :=
  named.2.foldl (renewEntry readings named.1) (b.openSection named.1)

end Builder

/-- The raw text of every key in a section is one of the document's. -/
theorem Document.raw_mem_rawValues {d : Document} {named : Text × Entries}
    {entry : Text × Entry} {kv : KeyValue} (inDocument : named ∈ d.sections)
    (inSection : entry ∈ named.2) (found : entry.2.keyValue? = some kv)
    : kv.raw ∈ d.rawValues := by
  refine List.mem_flatMap.mpr ⟨named, inDocument, List.mem_map.mpr ⟨kv, ?_, rfl⟩⟩
  exact List.mem_filterMap.mpr ⟨entry, inSection, found⟩

namespace Pipeline

variable (p : Pipeline) (scope : Scope) (expand : Bool)

/-- Counts a value that has changed, which must then be fit to be written. -/
def counted (kv : KeyValue) (typed : TypedValue) (changed : Nat) : Except PipelineFault Nat :=
  if typed.same kv.typed then .ok changed
  else
    match typed.render? with
    | some _ => .ok (changed + 1)
    | none => .error .digitLimit

/-- Stores an entry again, if the raw text that it may have still means something. -/
def renewEntry (inSection : Text) (state : Builder × Nat) (named : Text × Entry)
    : Except PipelineFault (Builder × Nat) :=
  let stored := state.1.renewEntry (p.readings scope expand) inSection named
  match named.2 with
  | .comment _ => .ok (stored, state.2)
  | .keyValue kv => do
    let reading ← p.meaning scope expand kv.raw
    let changed ← counted kv reading.1 state.2
    return (stored, changed)

/-- Stores the entries of a section again. -/
def renewSection (state : Builder × Nat) (named : Text × Entries)
    : Except PipelineFault (Builder × Nat) :=
  named.2.foldlM (p.renewEntry scope expand named.1) (state.1.openSection named.1, state.2)

/-- What a document is resolved to. -/
def renewed (d : Document) : Except PipelineFault Document := do
  p.verdict scope d.rawValues
  let (b, _) ← d.sections.foldlM (p.renewSection scope expand) ({}, 0)
  return b.build

theorem countChange_settles (inSection : Text) (kv : KeyValue) (typed : TypedValue)
    (changed : Nat)
    : (p.countChange inSection kv typed changed).Settles (counted kv typed changed) := by
  have written := render_settles typed
  unfold countChange counted
  split
  · exact .pure changed
  · cases rendered : typed.render? with
    | none =>
        rw [rendered] at written
        exact written.bind_error _
    | some t =>
        rw [rendered] at written
        exact written.bind_ok ((p.log_settles _ _).bind_ok (.pure _))

/-- An entry is stored again with the reading of its raw text, if that has been approved. -/
theorem resolveEntry_settles (inSection : Text) (state : Builder × Nat) (named : Text × Entry)
    (approved : ∀ kv, named.2.keyValue? = some kv → ∃ s, scope.settled kv.raw = .ok s)
    : (p.resolveEntry scope expand inSection state named).Settles
        (p.renewEntry scope expand inSection state named) := by
  obtain ⟨b, changed⟩ := state
  obtain ⟨name, entry⟩ := named
  cases entry with
  | comment text => exact .pure _
  | keyValue kv =>
      obtain ⟨s, settled⟩ := approved kv rfl
      have resolved := p.resolveValue_settles scope expand settled
      unfold resolveEntry renewEntry
      dsimp only
      cases read : p.meaning scope expand kv.raw with
      | error fault =>
          rw [read] at resolved
          exact resolved.bind_error _
      | ok reading =>
          rw [read] at resolved
          refine resolved.bind_ok ?_
          refine (p.reportInvalid_settles b none inSection kv.key reading.2).bind_ok ?_
          refine (p.countChange_settles inSection kv reading.1 changed).bind fun now _ => ?_
          unfold Builder.renewEntry
          dsimp only
          rw [readings_of_meaning read]
          exact .pure _

/-- The sections of an approved document are stored again, with the count of changed values. -/
theorem resolveSections_settles {d : Document}
    (approved : p.verdict scope d.rawValues = .ok ()) (state : Builder × Nat)
    : (d.sections.foldlM (p.resolveSection scope expand) state).Settles
        (d.sections.foldlM (p.renewSection scope expand) state) := by
  refine Action.Settles.foldlM (fun state named inDocument => ?_) _
  refine Action.Settles.foldlM (fun state entry inSection => ?_) _
  refine p.resolveEntry_settles scope expand named.1 state entry fun kv found => ?_
  exact settled_of_verdict approved (Document.raw_mem_rawValues inDocument inSection found)

/-- Resolving a document settles to what it is resolved to, in every world and with every
logger.
-/
theorem resolve_settles (d : Document)
    : (p.resolve scope expand d).Settles (p.renewed scope expand d) := by
  unfold resolve renewed
  refine (p.approve_settles scope _).bind fun _ approved => ?_
  exact (p.resolveSections_settles scope expand approved _).bind fun state _ =>
    (p.log_settles _ _).bind_ok (.pure _)

-----------------------------------------------------------------------------------------
-- When a document is resolved, and to what
-----------------------------------------------------------------------------------------

variable {p scope expand}

/-- An entry that is stored again is stored with the reading of its raw text. -/
theorem renewEntry_eq_ok {inSection : Text} {state next : Builder × Nat} {named : Text × Entry}
    (renewed : p.renewEntry scope expand inSection state named = .ok next)
    : next.1 = state.1.renewEntry (p.readings scope expand) inSection named := by
  obtain ⟨name, entry⟩ := named
  cases entry with
  | comment text =>
      cases renewed
      rfl
  | keyValue kv =>
      unfold renewEntry at renewed
      obtain ⟨reading, _, counts⟩ := Computation.bind_eq_ok_iff.mp renewed
      obtain ⟨changed, _, stored⟩ := Computation.bind_eq_ok_iff.mp counts
      cases stored
      rfl

theorem counted_succeeds (kv : KeyValue) {typed : TypedValue} (written : typed.render?.isSome)
    (changed : Nat)
    : ∃ next, counted kv typed changed = .ok next := by
  unfold counted
  split
  · exact ⟨changed, rfl⟩
  · obtain ⟨t, rendered⟩ := Option.isSome_iff_exists.mp written
    exact ⟨changed + 1, by rw [rendered]⟩

/-- An entry is stored again if the raw text that it may have is admitted. -/
theorem renewEntry_succeeds {named : Text × Entry}
    (admits : ∀ kv, named.2.keyValue? = some kv → p.Admits scope expand kv.raw)
    (inSection : Text) (state : Builder × Nat)
    : ∃ next, p.renewEntry scope expand inSection state named = .ok next := by
  obtain ⟨name, entry⟩ := named
  cases entry with
  | comment text => exact ⟨_, rfl⟩
  | keyValue kv =>
      obtain ⟨read, written⟩ := (admits kv rfl).meaning
      obtain ⟨changed, count⟩ := counted_succeeds kv written state.2
      refine ⟨(state.1.renewEntry (p.readings scope expand) inSection (name, .keyValue kv),
        changed), Computation.bind_eq_ok_iff.mpr ⟨_, read, ?_⟩⟩
      exact Computation.bind_eq_ok_iff.mpr ⟨changed, count, rfl⟩

/-- Sections that are stored again are stored with the readings of their raw texts. -/
theorem foldlM_renewSection_eq_ok {sections : Table Entries} {state next : Builder × Nat}
    (renewed : sections.foldlM (p.renewSection scope expand) state = .ok next)
    : next.1 = sections.foldl (Builder.renewSection (p.readings scope expand)) state.1 := by
  refine Computation.view_of_foldlM Prod.fst (fun state named next ran => ?_) renewed
  exact Computation.view_of_foldlM Prod.fst (fun _ _ _ => renewEntry_eq_ok) ran

/-- A document that is resolved has its entries stored again, in order. -/
theorem renewed_eq_ok {d next : Document} (resolved : p.renewed scope expand d = .ok next)
    : next = (d.sections.foldl (Builder.renewSection (p.readings scope expand)) {}).build := by
  obtain ⟨_, _, renews⟩ := Computation.bind_eq_ok_iff.mp resolved
  obtain ⟨state, folded, built⟩ := Computation.bind_eq_ok_iff.mp renews
  cases built
  exact congrArg Builder.build (foldlM_renewSection_eq_ok folded)

/-- A document is resolved if no trial is interrupted and all its raw texts are admitted. -/
theorem renewed_of_admits {d : Document} (running : p.interruption = none)
    (admits : ∀ raw ∈ d.rawValues, p.Admits scope expand raw)
    : p.renewed scope expand d
      = .ok (d.sections.foldl (Builder.renewSection (p.readings scope expand)) {}).build := by
  have steps (state : Builder × Nat) (named : Text × Entries) (inDocument : named ∈ d.sections)
      : ∃ next, p.renewSection scope expand state named = .ok next := by
    refine Computation.foldlM_succeeds (fun state entry inSection => ?_) _
    refine renewEntry_succeeds (fun kv found => ?_) named.1 state
    exact admits kv.raw (Document.raw_mem_rawValues inDocument inSection found)
  obtain ⟨state, folded⟩ := Computation.foldlM_succeeds steps ({}, 0)
  rw [← foldlM_renewSection_eq_ok folded]
  refine Computation.bind_eq_ok_iff.mpr ⟨(), verdict_of_admits running admits, ?_⟩
  exact Computation.bind_eq_ok_iff.mpr ⟨state, folded, rfl⟩

end Pipeline

end LiveIni
