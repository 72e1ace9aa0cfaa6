import LiveIni.Proofs.Pipeline.Accounting
import LiveIni.Proofs.Pipeline.RoundTrip

/-!
A document whose text is appended to that of another one. The sections of both come together under
their names, and what is appended wins. Only the lines that a document begins with before any
header do not keep their section: they belong to the last section of the document before.
-/

namespace LiveIni

namespace Sections

variable {readings : Text → Reading} {inSection : Text} {sections : Sections}

/-- Lines after others are stored where these end, in the section that these leave open. -/
theorem storeLines_append (lines more : List Line)
    : storeLines readings inSection sections (lines ++ more)
      = storeLines readings (Line.openAfter inSection lines)
          (storeLines readings inSection sections lines) more := by
  rw [storeLines, PlacedLine.place_append, List.foldl_append]
  exact foldl_place_number readings _ 1 _ more _

/-- The name of the last section; the section without a name if there is none at all. -/
def lastName (sections : Sections) : Text :=
  sections.names.getLast?.getD Document.noSection

/-- The first section is written without its header. -/
def beginsHeaderless : Sections → Bool
  | [] => false
  | named :: _ => named.1 = Document.noSection && !named.2.isEmpty

theorem blocksAfter_eq_self {blocks : Sections} (headed : blocks.beginsHeaderless = false)
    (inSection : Text)
    : blocksAfter inSection blocks = blocks := by
  cases blocks with
  | nil => rfl
  | cons named rest =>
      rw [blocksAfter, if_neg]
      rintro ⟨unnamed, hasEntries⟩
      rw [beginsHeaderless, hasEntries, decide_eq_true unnamed] at headed
      cases headed

theorem beginsHeaderless_mapEntries (f : Entry → Entry) (sections : Sections)
    : (sections.mapEntries f).beginsHeaderless = sections.beginsHeaderless := by
  cases sections with
  | nil => rfl
  | cons named rest =>
      obtain ⟨name, entries⟩ := named
      cases entries <;> rfl

/-- The headers among the lines of a section. -/
theorem headers_writtenSection {named : Text × Entries} (legible : Document.LegibleSection named)
    (first : Bool)
    : ((Document.writtenSection first named).map Line.ofText).filterMap Line.header?
      = if first ∧ named.1 = Document.noSection ∧ !named.2.isEmpty then [] else [named.1] := by
  have none : (named.2.map fun pair => pair.2.line).filterMap Line.header? = [] := by
    refine List.filterMap_eq_nil_iff.mpr fun line member => ?_
    obtain ⟨⟨_, entry⟩, _, rfl⟩ := List.mem_map.mp member
    cases entry <;> rfl
  rw [Document.map_ofText_writtenSection legible, List.filterMap_append, List.filterMap_append,
    none, List.append_nil]
  split <;> rfl

/-- The lines of sections leave the last one open. -/
theorem openAfter_written {sections : Sections}
    (legible : ∀ named ∈ sections, Document.LegibleSection named)
    : Line.openAfter Document.noSection ((Document.written sections).map Line.ofText)
      = sections.lastName := by
  have others (rest : Sections) (within : ∀ named ∈ rest, Document.LegibleSection named)
      : ((rest.flatMap (Document.writtenSection false)).map Line.ofText).filterMap Line.header?
        = rest.names := by
    induction rest with
    | nil => rfl
    | cons named more ih =>
        rw [List.flatMap_cons, List.map_append, List.filterMap_append,
          headers_writtenSection (within named List.mem_cons_self),
          if_neg (fun omits => Bool.false_ne_true omits.1),
          ih fun pair member => within pair (List.mem_cons_of_mem _ member)]
        rfl
  cases sections with
  | nil => rfl
  | cons named rest =>
      rw [Document.written, List.map_append, Line.openAfter, List.filterMap_append,
        headers_writtenSection (legible named List.mem_cons_self),
        others rest fun pair member => legible pair (List.mem_cons_of_mem _ member),
        lastName, Table.names_cons, List.getLast?_cons, Option.getD_some]
      split
      · next omits => rw [List.nil_append, omits.2.1]
      · rw [List.singleton_append, List.getLast?_cons, Option.getD_some]

-----------------------------------------------------------------------------------------
-- Entries of extended sections
-----------------------------------------------------------------------------------------

theorem entriesOf_cons (block : Text × Entries) (rest : Sections) (name : Text)
    : entriesOf (block :: rest) name = if block.1 = name then block.2 else rest.entriesOf name := by
  unfold entriesOf
  rw [Table.get?]
  split <;> rfl

theorem entriesOf_extend (sections : Sections) (block : Text × Entries) (name : Text)
    : (sections.extend block).entriesOf name
      = (if block.1 = name then block.2.map Prod.snd else []).foldl Entries.add
          (sections.entriesOf name) := by
  rw [extend, entriesOf_foldl fun s (pair : Text × Entry) =>
    s.entriesOf_update_add block.1 pair.2 name, entriesOf_openSection]
  congr 1
  by_cases same : block.1 = name <;> simp [same]

/-- A section that has been extended by blocks with distinct names has the entries of the block of its
name added to it, by induction on the blocks.
-/
theorem entriesOf_foldl_extend {blocks : Sections} (distinct : blocks.names.Nodup)
    (sections : Sections) (name : Text)
    : entriesOf (blocks.foldl extend sections) name
      = ((entriesOf blocks name).map Prod.snd).foldl Entries.add (sections.entriesOf name) := by
  induction blocks generalizing sections with
  | nil => rfl
  | cons block rest ih =>
      rw [Table.names_cons] at distinct
      obtain ⟨absent, others⟩ := List.nodup_cons.mp distinct
      rw [List.foldl_cons, ih others, entriesOf_extend, entriesOf_cons]
      split
      · next same =>
          rw [same] at absent
          rw [entriesOf_of_not_mem absent]
          rfl
      · rfl

end Sections

-----------------------------------------------------------------------------------------
-- Documents after documents
-----------------------------------------------------------------------------------------

theorem Entry.Legible.written_ne_nil {entry : Entry} (legible : entry.Legible)
    : entry.written ≠ [] := by
  intro empty
  have blank := legible.read
  rw [empty] at blank
  cases entry <;> cases blank

namespace Document

variable {d d₁ d₂ both : Document} {text text₁ text₂ lineEnd lineEnd₁ lineEnd₂ : Text}
  {readings readings₁ readings₂ : Text → Reading}

/-- The text of a document begins with no line end, since its first line is a header or an entry. -/
theorem head?_written {sections : Sections} (legible : ∀ named ∈ sections, LegibleSection named)
    (lineEnd : Text)
    : ((written sections).flatMap (· ++ lineEnd)).head? ≠ some '\n' := by
  cases sections with
  | nil => exact fun feed => by cases feed
  | cons named rest =>
      rw [written, writtenSection]
      split
      · next omits =>
          obtain ⟨name, entries⟩ := named
          cases entries with
          | nil => cases omits.2.2
          | cons pair others =>
              have first := (legible _ List.mem_cons_self).2 pair List.mem_cons_self
              cases line : pair.2.written with
              | nil => exact absurd line first.written_ne_nil
              | cons c more =>
                  have noEnd := first.unbroken c (by rw [line]; exact List.mem_cons_self)
                  rw [List.nil_append, List.map_cons, line]
                  exact fun feed => noEnd.1 (Option.some.inj feed)
      · exact fun feed => absurd (Option.some.inj feed) (by decide)

/-- The document of a text, with its values by other readings, is the document of the text by
these.
-/
theorem IsOf.reread (isOf : d.IsOf text readings) (others : Text → Reading)
    : ({ d with sections := Sections.mapEntries (Entry.reread others) d.sections } : Document).IsOf
        text others := by
  rw [IsOf, isOf]
  exact (Sections.foldl_storeLine_reread readings others _).symm

theorem written_reread (others : Text → Reading) (sections : Sections)
    : written (sections.mapEntries (Entry.reread others)) = written sections := by
  have ofSection (first : Bool) (named : Text × Entries)
      : writtenSection first (named.1, named.2.mapValues (Entry.reread others))
        = writtenSection first named := by
    have lines (entry : Entry) : (entry.reread others).written = entry.written := by
      cases entry <;> rfl
    have whole : (named.2.mapValues (Entry.reread others)).map (fun pair => pair.2.written)
        = named.2.map fun pair => pair.2.written := by
      rw [Table.mapValues, List.map_map]
      exact List.map_congr_left fun pair _ => lines pair.2
    have empty : List.isEmpty (named.2.mapValues (Entry.reread others)) = named.2.isEmpty := by
      cases named.2 <;> rfl
    rw [writtenSection, whole, empty, writtenSection]
  cases sections with
  | nil => rfl
  | cons named rest =>
      rw [Sections.mapEntries, Table.mapValues_cons, written, ofSection, written]
      congr 1
      rw [Table.mapValues, List.flatMap_map]
      exact congrArg (List.flatMap · rest) (funext fun pair => ofSection false pair)

/-- The lines of a written document, before those of another one. -/
theorem IsOf.lines_appended (isOf₁ : d₁.IsOf text₁ readings₁) (isOf₂ : d₂.IsOf text₂ readings₂)
    (isEnd₁ : lineEnd₁ ∈ Text.lineEnds) (isEnd₂ : lineEnd₂ ∈ Text.lineEnds)
    : Text.lines ((Document.written d₁.sections).flatMap (· ++ lineEnd₁)
          ++ (Document.written d₂.sections).flatMap (· ++ lineEnd₂))
      = Document.written d₁.sections ++ (Document.written d₂.sections ++ [[]]) := by
  have noFeed := head?_written (fun named member => (isOf₂.restorable named member).legible)
    lineEnd₂
  rw [Text.lines_flatMap_append isEnd₁ isOf₁.unbroken_written fun _ => noFeed,
    isOf₂.lines_written isEnd₂]

/-- The document of an appended text is the first document, extended by the blocks that the second
one is read as where the first one ends, if all values are by the same readings.
-/
theorem IsOf.extended (isOf₁ : d₁.IsOf text₁ readings) (isOf₂ : d₂.IsOf text₂ readings)
    (isEnd₁ : lineEnd₁ ∈ Text.lineEnds) (isEnd₂ : lineEnd₂ ∈ Text.lineEnds)
    (isOf : both.IsOf ((Document.written d₁.sections).flatMap (· ++ lineEnd₁)
        ++ (Document.written d₂.sections).flatMap (· ++ lineEnd₂)) readings)
    : both.sections
      = (Sections.blocksAfter (Sections.lastName d₁.sections) d₂.sections).foldl Sections.extend
          d₁.sections := by
  have again : Sections.storeLines readings noSection []
      ((Document.written d₁.sections).map Line.ofText) = d₁.sections := by
    have whole := isOf₁.storeLines_written
    rw [Sections.storeLines_append] at whole
    exact (Sections.storeLines_blank []).symm.trans whole
  have stored : both.sections = Sections.storeLines readings noSection []
      ((Document.written d₁.sections).map Line.ofText
        ++ ((Document.written d₂.sections).map Line.ofText ++ [.blank])) := by
    rw [isOf, PlacedLine.ofText, isOf₁.lines_appended isOf₂ isEnd₁ isEnd₂, List.map_append,
      List.map_append]
    rfl
  rw [stored, Sections.storeLines_append, again,
    Sections.openAfter_written fun named member => (isOf₁.restorable named member).legible,
    Sections.storeLines_written _ _ isOf₂.restorable]

/-- Every section of a parsed document records its own entries. -/
theorem IsOf.records_self (isOf : d.IsOf text readings) (name : Text)
    : Entries.ofList ((Sections.entriesOf d.sections name).map Prod.snd)
        = Sections.entriesOf d.sections name
      ∧ (Sections.entriesOf d.sections name).Records
        ((Sections.entriesOf d.sections name).map Prod.snd) := by
  have each : Sections.Each (fun _ => True) Entries.Filled d.sections := fun named member =>
    ⟨trivial, (isOf.restorable named member).filled⟩
  have again := (each.entriesOf .nil name).again
  have records := Entries.records_ofList ((Sections.entriesOf d.sections name).map Prod.snd)
  rw [again] at records
  exact ⟨again, records⟩

/-- A document that is extended by the sections of another one has the raw texts of both, and where
both have one, that of the other.
-/
theorem IsOf.raw?_extended (isOf₁ : d₁.IsOf text₁ readings) (isOf₂ : d₂.IsOf text₂ readings)
    (extended : both.sections = d₂.sections.foldl Sections.extend d₁.sections)
    (name key : Text)
    : both.raw? name key = (d₂.raw? name key).or (d₁.raw? name key) := by
  obtain ⟨again, records₁⟩ := isOf₁.records_self name
  obtain ⟨_, records₂⟩ := isOf₂.records_self name
  have entries : Sections.entriesOf both.sections name
      = Entries.ofList ((Sections.entriesOf d₁.sections name).map Prod.snd
        ++ (Sections.entriesOf d₂.sections name).map Prod.snd) := by
    rw [extended, Sections.entriesOf_foldl_extend isOf₂.distinct.names, Entries.ofList,
      List.foldl_append]
    exact congrArg (List.foldl Entries.add · _) again.symm
  have records := Entries.records_ofList ((Sections.entriesOf d₁.sections name).map Prod.snd
    ++ (Sections.entriesOf d₂.sections name).map Prod.snd)
  rw [← entries] at records
  rw [raw?_of_records records, raw?_of_records records₁, raw?_of_records records₂,
    Entry.lastFor_append, Option.map_or]

section Appended

variable (isOf₁ : d₁.IsOf text₁ readings₁) (isOf₂ : d₂.IsOf text₂ readings₂)
  (isEnd₁ : lineEnd₁ ∈ Text.lineEnds) (isEnd₂ : lineEnd₂ ∈ Text.lineEnds)
  (isOf : both.IsOf ((Document.written d₁.sections).flatMap (· ++ lineEnd₁)
    ++ (Document.written d₂.sections).flatMap (· ++ lineEnd₂)) readings)

include isOf₁ isOf₂ isEnd₁ isEnd₂ isOf

/-- The document of an appended text is the first document, extended by the blocks that the second
one is read as where the first one ends, with the values of both by its own readings.
-/
theorem IsOf.appended
    : both.sections
      = (Sections.blocksAfter (Sections.lastName d₁.sections)
          (Sections.mapEntries (Entry.reread readings) d₂.sections)).foldl
        Sections.extend (Sections.mapEntries (Entry.reread readings) d₁.sections) := by
  have sameName : Sections.lastName (Sections.mapEntries (Entry.reread readings) d₁.sections)
      = Sections.lastName d₁.sections :=
    congrArg (·.getLast?.getD noSection) (Table.names_mapValues _ d₁.sections)
  rw [← written_reread readings d₁.sections, ← written_reread readings d₂.sections] at isOf
  rw [(isOf₁.reread readings).extended (isOf₂.reread readings) isEnd₁ isEnd₂ isOf, sameName]

/-- If no line of the second document loses its section, every key has the raw text that the second
document has for it, or else the one of the first.
-/
theorem IsOf.raw?_appended
    (keeps : Sections.beginsHeaderless d₂.sections = false
      ∨ Sections.lastName d₁.sections = noSection)
    (name key : Text)
    : both.raw? name key = (d₂.raw? name key).or (d₁.raw? name key) := by
  have extended := isOf₁.appended isOf₂ isEnd₁ isEnd₂ isOf
  have blocks : Sections.blocksAfter (Sections.lastName d₁.sections)
        (Sections.mapEntries (Entry.reread readings) d₂.sections)
      = Sections.mapEntries (Entry.reread readings) d₂.sections := by
    rcases keeps with headed | unnamed
    · exact Sections.blocksAfter_eq_self (headed ▸ Sections.beginsHeaderless_mapEntries _ _) _
    · rw [unnamed, Sections.blocksAfter_noSection]
  have reread₁ := isOf₁.reread readings
  have reread₂ := isOf₂.reread readings
  rw [blocks] at extended
  -- Raw texts are those of the lines, whatever the values are.
  rw [reread₁.raw?_extended reread₂ extended, reread₁.raw?_eq, reread₂.raw?_eq, isOf₁.raw?_eq,
    isOf₂.raw?_eq]

end Appended

end Document

namespace Pipeline

variable {p p₁ p₂ writer₁ writer₂ : Pipeline} {scope scope₁ scope₂ : Scope}
  {expand expand₁ expand₂ : Bool} {text₁ text₂ lineEnd₁ lineEnd₂ : Text} {d₁ d₂ both : Document}

/-- The raw texts of an appended text come from the texts of the two documents. -/
theorem raw_of_mem_appended {readings₁ readings₂ : Text → Reading}
    (isOf₁ : d₁.IsOf text₁ readings₁) (isOf₂ : d₂.IsOf text₂ readings₂)
    (isEnd₁ : lineEnd₁ ∈ Text.lineEnds) (isEnd₂ : lineEnd₂ ∈ Text.lineEnds) {raw : Text}
    (member : raw ∈ (PlacedLine.ofText ((Document.written d₁.sections).flatMap (· ++ lineEnd₁)
      ++ (Document.written d₂.sections).flatMap (· ++ lineEnd₂))).filterMap (·.raw?))
    : raw ∈ (PlacedLine.ofText text₁).filterMap (·.raw?)
      ∨ raw ∈ (PlacedLine.ofText text₂).filterMap (·.raw?) := by
  obtain ⟨key, inLines⟩ := PlacedLine.mem_raws_iff.mp member
  rw [isOf₁.lines_appended isOf₂ isEnd₁ isEnd₂, List.map_append, List.map_append] at inLines
  rcases List.mem_append.mp inLines with isFirst | later
  · exact .inl (isOf₁.raw_mem (isOf₁.raw_of_written_line isFirst))
  · rcases List.mem_append.mp later with isSecond | isLast
    · exact .inr (isOf₂.raw_mem (isOf₂.raw_of_written_line isSecond))
    · cases List.mem_singleton.mp isLast

/-- The text of a document that has been appended, with its raw texts, to the text of another one is
parsed in every state in which the texts of both are. In the document that it is parsed to,
the sections of the first document have been extended by those of the second one, where lines
that this one begins with before any header belong to the last section of the first one.
Unless there are such lines, or that section is the one without a name, every key has the raw
text that the second document has for it, or else the one of the first, and there is no other
key.
Witness: the first text leaves its last section open, and headers and entries add to the sections
that are there just as the builder does.
-/
theorem parse_appended
    (parsed₁ : p₁.ParsesTo scope₁ expand₁ text₁ d₁) (isEnd₁ : writer₁.newline ∈ Text.lineEnds)
    (parsed₂ : p₂.ParsesTo scope₂ expand₂ text₂ d₂) (isEnd₂ : writer₂.newline ∈ Text.lineEnds)
    : ∃ written₁ written₂,
        (∀ world, writer₁.dumps d₁ "unexpanded".toList world = (.ok written₁, world))
        ∧ (∀ world, writer₂.dumps d₂ "unexpanded".toList world = (.ok written₂, world))
        ∧ ∀ (p : Pipeline) (scope : Scope) (expand : Bool),
          ((∃ d, p.ParsesTo scope expand text₁ d) → (∃ d, p.ParsesTo scope expand text₂ d)
            → ∀ world, ∃ both after,
              p.parse scope expand (written₁ ++ written₂) world = (.ok both, after))
          ∧ ∀ both, p.ParsesTo scope expand (written₁ ++ written₂) both
            → both.sections
                = (Sections.blocksAfter (Sections.lastName d₁.sections)
                    (Sections.mapEntries (Entry.reread (p.readings scope expand)) d₂.sections)).foldl
                  Sections.extend
                  (Sections.mapEntries (Entry.reread (p.readings scope expand)) d₁.sections)
              ∧ (Sections.beginsHeaderless d₂.sections = false
                  ∨ Sections.lastName d₁.sections = Document.noSection
                → ∀ inSection key,
                  both.raw? inSection key
                    = (d₂.raw? inSection key).or (d₁.raw? inSection key)) := by
  obtain ⟨isOf₁, _, _⟩ := parsed₁.isOf
  obtain ⟨isOf₂, _, _⟩ := parsed₂.isOf
  refine ⟨_, _, dumps_unexpanded writer₁ d₁, dumps_unexpanded writer₂ d₂, fun p scope expand => ?_⟩
  constructor
  · rintro ⟨_, again₁⟩ ⟨_, again₂⟩ world
    obtain ⟨_, running, admits₁⟩ := again₁.isOf
    obtain ⟨_, _, admits₂⟩ := again₂.isOf
    obtain ⟨both, after, ran, _⟩ := parse_of_admits running (fun raw member =>
      (raw_of_mem_appended isOf₁ isOf₂ isEnd₁ isEnd₂ member).elim (admits₁ raw) (admits₂ raw)) world
    exact ⟨both, after, ran⟩
  · intro both parsed
    exact ⟨isOf₁.appended isOf₂ isEnd₁ isEnd₂ parsed.isOf.1,
      isOf₁.raw?_appended isOf₂ isEnd₁ isEnd₂ parsed.isOf.1⟩

/-- A document with one section. -/
def sectionNote : Document where
  sections := [(['a'], [(['x'], .keyValue ⟨['x'], ['1'], .integer .int32 1⟩)])]

/-- A document that begins with a key before any header. -/
def loneNote : Document where
  sections := [
    (Document.noSection, [(['y'], .keyValue ⟨['y'], ['2'], .integer .int32 2⟩)]),
    (['b'], [])]

/-- The key before any header, appended to the section. -/
theorem parse_appended_loneNote
    : ({} : Pipeline).ParsesTo {} false "[a]\nx=1".toList sectionNote
      ∧ ({} : Pipeline).ParsesTo {} false "y=2\n[b]".toList loneNote
      ∧ ∃ written₁ written₂,
        (∀ world, ({} : Pipeline).dumps sectionNote "unexpanded".toList world
          = (.ok written₁, world))
        ∧ (∀ world, ({} : Pipeline).dumps loneNote "unexpanded".toList world
          = (.ok written₂, world))
        ∧ ∀ world, ∃ both after,
          ({} : Pipeline).parse {} false (written₁ ++ written₂) world = (.ok both, after)
          ∧ both.sections = [
            (['a'], [
              (['x'], .keyValue ⟨['x'], ['1'], .integer .int32 1⟩),
              (['y'], .keyValue ⟨['y'], ['2'], .integer .int32 2⟩)]),
            (['b'], [])] := by
  have parsed₁ : ({} : Pipeline).ParsesTo {} false "[a]\nx=1".toList sectionNote :=
    parsesTo_of_toOption (by decide +kernel)
  have parsed₂ : ({} : Pipeline).ParsesTo {} false "y=2\n[b]".toList loneNote :=
    parsesTo_of_toOption (by decide +kernel)
  have isEnd : ({} : Pipeline).newline ∈ Text.lineEnds := by decide
  obtain ⟨written₁, written₂, dumped₁, dumped₂, joined⟩ :=
    parse_appended parsed₁ isEnd parsed₂ isEnd
  refine ⟨parsed₁, parsed₂, written₁, written₂, dumped₁, dumped₂, fun world => ?_⟩
  obtain ⟨runs, sections⟩ := joined {} {} false
  obtain ⟨both, after, ran⟩ := runs ⟨_, parsed₁⟩ ⟨_, parsed₂⟩ world
  refine ⟨both, after, ran, (sections both ⟨world, after, ran⟩).1.trans ?_⟩
  decide +kernel

/-- Writes a document to a file, appends another one to it, and loads what the file then says. -/
def writeAppendLoad (p : Pipeline) (scope : Scope) (path : Text) (d₁ d₂ : Document)
    : Action Document := do
  let _ ← p.dump d₁ path "unexpanded".toList "utf-8".toList false false
  let _ ← p.dump d₂ path "unexpanded".toList "utf-8".toList true false
  p.load scope false path "utf-8".toList

/-- In a file a key before any header does not keep its section if it is appended: it is found in the
last section of the document that was there before, and not in its own.
-/
theorem appended_file_moves_loneNote
    : ({} : Pipeline).ParsesTo {} false "[a]\nx=1".toList sectionNote
      ∧ ({} : Pipeline).ParsesTo {} false "y=2\n[b]".toList loneNote
      ∧ ∃ both,
        ((({} : Pipeline).writeAppendLoad {} "f.ini".toList sectionNote loneNote) {}).1.toOption
          = some both
        ∧ loneNote.raw? Document.noSection ['y'] = some ['2']
        ∧ both.raw? Document.noSection ['y'] = none
        ∧ both.raw? ['a'] ['y'] = some ['2'] := by
  refine ⟨parsesTo_of_toOption (by decide +kernel), parsesTo_of_toOption (by decide +kernel), {
    sections := [
      (['a'], [
        (['x'], .keyValue ⟨['x'], ['1'], .integer .int32 1⟩),
        (['y'], .keyValue ⟨['y'], ['2'], .integer .int32 2⟩)]),
      (['b'], [])] }, ?_, ?_⟩
  · decide +kernel
  · decide

end Pipeline

end LiveIni
