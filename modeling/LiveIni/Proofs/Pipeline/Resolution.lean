import LiveIni.Proofs.Document.Equality
import LiveIni.Proofs.Pipeline.Storing
import Mathlib.Logic.Relation

/-!
Resolving a document anew comes to the same as reading its text anew. A document keeps all that
its text decides through any number of resolutions, and the values are those of the last state.
-/

namespace LiveIni

/-- The sections are those of the text, with values by the given readings. -/
def Document.IsOf (d : Document) (text : Text) (readings : Text → Reading) : Prop :=
  d.sections = (PlacedLine.ofText text).foldl (Sections.storeLine readings) []

/-- The names of sections and entries in their order, and what the entries say without their
values.
-/
def Document.outline (d : Document) : Table (Table Line) :=
  d.sections.mapValues (Table.mapValues Entry.line)

/-- If the entry has a raw text, it is one of the given ones. -/
def Entry.RawIn (raws : List Text) (entry : Entry) : Prop :=
  ∀ kv, entry.keyValue? = some kv → kv.raw ∈ raws

namespace Document.IsOf

variable {d : Document} {text : Text} {readings : Text → Reading}

theorem distinct (isOf : d.IsOf text readings) : Sections.Distinct d.sections := by
  rw [isOf]
  exact Sections.foldl_storeLine_distinct readings _

/-- What holds of every entry that a line of the text adds holds in all of the document. -/
theorem each_entry (isOf : d.IsOf text readings) {holds : Entry → Prop}
    (added : ∀ l ∈ PlacedLine.ofText text, ∀ entry, l.entry? readings = some entry →
      holds entry)
    : Sections.Each (fun _ => True) (fun entries => ∀ pair ∈ entries, holds pair.2)
        d.sections := by
  rw [isOf]
  exact Sections.foldl_storeLine_entries (fun _ _ _ _ => trivial)
    fun l member entry adds => ⟨trivial, added l member entry adds⟩

/-- Every raw text of the document is one of a line of the text. -/
theorem raw_mem (isOf : d.IsOf text readings) {raw : Text} (member : raw ∈ d.rawValues)
    : raw ∈ (PlacedLine.ofText text).filterMap (·.raw?) := by
  have each : Sections.Each (fun _ => True)
      (fun entries => ∀ pair ∈ entries,
        pair.2.RawIn ((PlacedLine.ofText text).filterMap (·.raw?))) d.sections := by
    refine isOf.each_entry fun l inText entry adds kv isKey => ?_
    refine List.mem_filterMap.mpr ⟨l, inText, ?_⟩
    rw [PlacedLine.raw?, (PlacedLine.of_entry? adds).1]
    cases entry with
    | comment text => cases isKey
    | keyValue found =>
        cases isKey
        rfl
  obtain ⟨named, inDocument, found⟩ := List.mem_flatMap.mp member
  obtain ⟨kv, inSection, rfl⟩ := List.mem_map.mp found
  obtain ⟨pair, inEntries, isKey⟩ := List.mem_filterMap.mp inSection
  exact (each named inDocument).2 pair inEntries kv isKey

end Document.IsOf

namespace Pipeline

variable {p : Pipeline} {scope : Scope} {expand : Bool} {text : Text} {d next : Document}

/-- In some world the text is parsed to the document. -/
def ParsesTo (p : Pipeline) (scope : Scope) (expand : Bool) (text : Text) (d : Document) : Prop :=
  ∃ world after, p.parse scope expand text world = (.ok d, after)

/-- A run that ends in a document is a parse. -/
theorem parsesTo_of_toOption
    (ran : (p.parse scope expand text {}).1.toOption = some d)
    : p.ParsesTo scope expand text d :=
  ⟨{}, _, Computation.eq_ok_iff.mpr ⟨ran, rfl⟩⟩

/-- A text that is parsed is read as the document of the text by the readings of the state. All
its raw texts are admitted then, and no trial is interrupted.
-/
theorem ParsesTo.isOf (parsed : p.ParsesTo scope expand text d)
    : d.IsOf text (p.readings scope expand)
      ∧ p.interruption = none
      ∧ ∀ raw ∈ (PlacedLine.ofText text).filterMap (·.raw?), p.Admits scope expand raw := by
  obtain ⟨world, after, ran⟩ := parsed
  obtain ⟨running, admits, rfl⟩ :=
    parsed_eq_ok_iff.mp ((p.parse_settles scope expand text).result_eq ran)
  exact ⟨Builder.sections_foldl_storeLine _ _, running, admits⟩

/-- What a raw text means has been inferred. -/
theorem infer_of_meaning {raw : Text} {reading : Reading}
    (meant : p.meaning scope expand raw = .ok reading)
    : ∃ t, infer p.format t = .ok reading := by
  obtain ⟨s, settled⟩ := settled_of_meaning meant
  unfold meaning at meant
  rw [settled] at meant
  dsimp only at meant
  cases inferred : infer p.format (if expand then scope.environment.expand s else s) with
  | error fault =>
      rw [inferred] at meant
      cases meant
  | ok found =>
      rw [inferred] at meant
      cases meant
      exact ⟨_, inferred⟩

/-- What a raw text means is the same as itself. -/
theorem same_of_meaning {raw : Text} {reading : Reading}
    (meant : p.meaning scope expand raw = .ok reading)
    : reading.1.same reading.1 = true := by
  obtain ⟨t, inferred⟩ := infer_of_meaning meant
  exact same_of_infer inferred

/-- The document of a text by the readings of a state is the same as itself, if the state admits
all raw texts of the text.
-/
theorem same_of_isOf (isOf : d.IsOf text (p.readings scope expand))
    (admits : ∀ raw ∈ (PlacedLine.ofText text).filterMap (·.raw?), p.Admits scope expand raw)
    (equal : next.sections = d.sections)
    : next.same d = true := by
  unfold Document.same
  rw [equal]
  refine Document.sameSections_self (isOf.each_entry fun l inText entry adds => ?_)
  obtain ⟨sameLine, valued⟩ := PlacedLine.of_entry? adds
  cases entry with
  | comment text => exact decide_eq_true rfl
  | keyValue kv =>
      have isRaw : l.raw? = some kv.raw := by
        rw [PlacedLine.raw?, sameLine]
        rfl
      have meant := (admits kv.raw (List.mem_filterMap.mpr ⟨l, inText, isRaw⟩)).meaning.1
      rw [← valued]
      exact Entry.sameAsItself_keyValue (same_of_meaning meant)

-----------------------------------------------------------------------------------------
-- Resolving documents anew
-----------------------------------------------------------------------------------------

/-- In some world the document is resolved to another one. -/
def ResolvesTo (p : Pipeline) (scope : Scope) (expand : Bool) (d next : Document) : Prop :=
  ∃ world after, p.resolve scope expand d world = (.ok next, after)

/-- A resolved document with distinct names has the same entries, with their values by the
readings of the state.
-/
theorem ResolvesTo.sections (resolved : p.ResolvesTo scope expand d next)
    (distinct : Sections.Distinct d.sections)
    : next.sections
      = Sections.mapEntries (Entry.reread (p.readings scope expand)) d.sections := by
  obtain ⟨world, after, ran⟩ := resolved
  rw [renewed_eq_ok ((p.resolve_settles scope expand d).result_eq ran)]
  exact Builder.sections_foldl_renewSection _ distinct

/-- A resolved document of a text is the document of the text by the readings of the state. -/
theorem ResolvesTo.isOf (resolved : p.ResolvesTo scope expand d next)
    {readings : Text → Reading} (isOf : d.IsOf text readings)
    : next.IsOf text (p.readings scope expand) := by
  unfold Document.IsOf
  rw [resolved.sections isOf.distinct, isOf, ← Sections.foldl_storeLine_reread]

/-- The document of a text resolves in every state that admits the raw texts of the text, to the
document of the text by the readings of that state.
-/
theorem resolve_of_isOf {readings : Text → Reading} (isOf : d.IsOf text readings)
    (running : p.interruption = none)
    (admits : ∀ raw ∈ (PlacedLine.ofText text).filterMap (·.raw?), p.Admits scope expand raw)
    (world : World)
    : ∃ next after, p.resolve scope expand d world = (.ok next, after)
        ∧ next.IsOf text (p.readings scope expand) := by
  have renewed := renewed_of_admits running fun raw member => admits raw (isOf.raw_mem member)
  have settled := p.resolve_settles scope expand d
  rw [renewed] at settled
  obtain ⟨after, ran⟩ := settled.runs world
  exact ⟨_, after, ran, ResolvesTo.isOf ⟨world, after, ran⟩ isOf⟩

/-- In some world and some state the document is resolved to another one. -/
def Renews (p : Pipeline) (expand : Bool) (d next : Document) : Prop :=
  ∃ scope, p.ResolvesTo scope expand d next

/-- Any number of resolutions, in any states, make a document of the text out of one, by
induction on their number.
-/
theorem isOf_of_renewals {readings : Text → Reading} (isOf : d.IsOf text readings)
    (renewals : Relation.ReflTransGen (p.Renews expand) d next)
    : ∃ others, next.IsOf text others := by
  induction renewals with
  | refl => exact ⟨readings, isOf⟩
  | tail _ last ih =>
      obtain ⟨scope, resolved⟩ := last
      obtain ⟨_, stillOf⟩ := ih
      exact ⟨_, resolved.isOf stillOf⟩

/-- Resolving keeps the outline of a document with distinct names. -/
theorem ResolvesTo.outline (resolved : p.ResolvesTo scope expand d next)
    (distinct : Sections.Distinct d.sections)
    : next.outline = d.outline := by
  have lines : Entry.line ∘ Entry.reread (p.readings scope expand) = Entry.line := by
    funext entry
    cases entry <;> rfl
  unfold Document.outline
  rw [resolved.sections distinct, Sections.mapEntries, Table.mapValues_mapValues]
  congr 1
  funext entries
  exact (Table.mapValues_mapValues _ _ entries).trans (by rw [lines])

/-- Resolving a parsed document is parsing its text anew. However often, and in whatever states, a
document parsed in one state has been resolved since, it resolves in a second state in which its
text can be parsed, and it then equals the document parsed there. A document that any steps of
a builder have made keeps, wherever it is resolved, its sections and entries with their names
in order, all comments and all raw texts.
Witness: lines decide everything but values, values are the readings of the last state, and
entries with distinct names are stored again where they were.
-/
theorem resolve_eq_parse (p : Pipeline) (expand : Bool)
    : (∀ (text : Text) (first second : Scope) (d₁ d₂ : Document),
        p.ParsesTo first expand text d₁ → p.ParsesTo second expand text d₂
        → ∀ d, Relation.ReflTransGen (p.Renews expand) d₁ d
        → ∀ world, ∃ next after,
          p.resolve second expand d world = (.ok next, after)
          ∧ next.sections = d₂.sections
          ∧ next.same d₂ = true)
      ∧ ∀ (steps : List BuilderStep) (scope : Scope) (next : Document),
        p.ResolvesTo scope expand (Builder.run steps).build next
        → next.outline = (Builder.run steps).build.outline := by
  constructor
  · intro text first second d₁ d₂ parsed₁ parsed₂ d renewals world
    obtain ⟨isOf₁, running, _⟩ := parsed₁.isOf
    obtain ⟨isOf₂, _, admits⟩ := parsed₂.isOf
    obtain ⟨_, isOf⟩ := isOf_of_renewals isOf₁ renewals
    obtain ⟨next, after, ran, nextIsOf⟩ := resolve_of_isOf isOf running admits world
    have equal : next.sections = d₂.sections := nextIsOf.trans isOf₂.symm
    exact ⟨next, after, ran, equal, same_of_isOf isOf₂ admits equal⟩
  · intro steps scope next resolved
    exact resolved.outline (Builder.run_distinct steps)

/-- A document with a comment that has lost its name to a key, whose value is a number. -/
def numberedNote (n : Int) : Document where
  sections := [(Document.noSection, [
    ("Comment2".toList, .comment "; note".toList),
    ("Comment1".toList, .keyValue ⟨"Comment1".toList, "$n".toList, .integer .int32 n⟩)])]

/-- The document of a note and a key that takes the note's name, parsed where the key stands for
one and resolved where it stands for two.
-/
theorem resolve_eq_parse_numberedNote
    : ∃ next after,
        ({} : Pipeline).resolve { bindings := [(['n'], .value (.int 2))] } false
          (numberedNote 1) {} = (.ok next, after)
        ∧ next.sections = (numberedNote 2).sections
        ∧ next.same (numberedNote 2) = true :=
  (resolve_eq_parse {} false).1 "; note\nComment1=$n".toList
    { bindings := [(['n'], .value (.int 1))] } { bindings := [(['n'], .value (.int 2))] }
    (numberedNote 1) (numberedNote 2) (parsesTo_of_toOption (by decide +kernel))
    (parsesTo_of_toOption (by decide +kernel)) (numberedNote 1) .refl {}

end Pipeline

end LiveIni
