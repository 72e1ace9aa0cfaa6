import LiveIni.Proofs.Document.Placement
import LiveIni.Proofs.Pipeline.Resolution

/-!
Documents written with their raw texts and parsed again. The text of a document is not the text
that it was parsed from: blank lines, malformed lines, spaces around keys, repeated headers and
earlier values of a key are gone. But its lines fill the same sections with the same entries
under the same names.
-/

namespace LiveIni

namespace Sections

variable {readings : Text → Reading} {inSection name : Text} {sections : Sections}

/-- Line numbers do not matter to sections, by induction on the lines. -/
theorem foldl_place_number (readings : Text → Reading) (m n : Nat) (inSection : Text)
    (lines : List Line) (sections : Sections)
    : (PlacedLine.place m inSection lines).foldl (storeLine readings) sections
      = (PlacedLine.place n inSection lines).foldl (storeLine readings) sections := by
  induction lines generalizing m n inSection sections with
  | nil => rfl
  | cons line rest ih => cases line <;> exact ih _ _ _ _

/-- The sections after lines, of which the first ones belong to the section that is open. -/
def storeLines (readings : Text → Reading) (inSection : Text) (sections : Sections)
    (lines : List Line) : Sections :=
  (PlacedLine.place 1 inSection lines).foldl (storeLine readings) sections

theorem storeLines_header (rest : List Line)
    : storeLines readings inSection sections (.header name :: rest)
      = storeLines readings name (sections.openSection name) rest :=
  foldl_place_number readings 2 1 name rest _

theorem storeLines_blank (rest : List Line)
    : storeLines readings inSection sections (.blank :: rest)
      = storeLines readings inSection sections rest :=
  foldl_place_number readings 2 1 inSection rest _

theorem storeLines_entry {entry : Entry} (valued : entry.reread readings = entry)
    (rest : List Line)
    : storeLines readings inSection sections (entry.line :: rest)
      = storeLines readings inSection (sections.update inSection (·.add entry)) rest := by
  cases entry with
  | comment text => exact foldl_place_number readings 2 1 inSection rest _
  | keyValue kv =>
      rw [← valued]
      exact foldl_place_number readings 2 1 inSection rest _

/-- The lines of entries add the entries, by induction on them. -/
theorem storeLines_entries {entries : Entries}
    (valued : ∀ pair ∈ entries, pair.2.reread readings = pair.2) (rest : List Line)
    : storeLines readings inSection sections (entries.map (fun pair => pair.2.line) ++ rest)
      = storeLines readings inSection
          (entries.foldl (fun s pair => s.update inSection (·.add pair.2)) sections) rest := by
  induction entries generalizing sections with
  | nil => rfl
  | cons pair others ih =>
      rw [List.map_cons, List.cons_append, storeLines_entry (valued pair List.mem_cons_self)]
      exact ih fun pair member => valued pair (List.mem_cons_of_mem _ member)

/-- The lines of a block with its header extend the sections by the block. -/
theorem storeLines_block {block : Text × Entries}
    (valued : ∀ pair ∈ block.2, pair.2.reread readings = pair.2) (rest : List Line)
    : storeLines readings inSection sections
        (.header block.1 :: (block.2.map (fun pair => pair.2.line) ++ .blank :: rest))
      = storeLines readings block.1 (sections.extend block) rest := by
  rw [storeLines_header, storeLines_entries valued, storeLines_blank]
  rfl

/-- Lines without a header, if there are any, are a block of the section that is open. -/
theorem storeLines_headerless {entries : Entries} (nonempty : entries ≠ [])
    (valued : ∀ pair ∈ entries, pair.2.reread readings = pair.2) (rest : List Line)
    : storeLines readings inSection sections
        (entries.map (fun pair => pair.2.line) ++ .blank :: rest)
      = storeLines readings inSection (sections.extend (inSection, entries)) rest := by
  have block : (inSection, entries).2 ≠ [] := nonempty
  rw [storeLines_entries valued, storeLines_blank, extend_of_ne_nil block]

/-- What a section of a parsed document satisfies: it is legible, it is filled by its own
entries, and its values are those of the readings.
-/
structure Restorable (readings : Text → Reading) (named : Text × Entries) : Prop where
  legible : Document.LegibleSection named
  filled : named.2.Filled
  valued : ∀ pair ∈ named.2, pair.2.reread readings = pair.2

/-- The lines of sections with headers extend the sections that are there by these, by induction on
the sections.
-/
theorem storeLines_others {blocks : Sections}
    (restorable : ∀ named ∈ blocks, Restorable readings named)
    : storeLines readings inSection sections
        ((blocks.flatMap (Document.writtenSection false)).map Line.ofText ++ [.blank])
      = blocks.foldl extend sections := by
  induction blocks generalizing sections inSection with
  | nil => exact storeLines_blank []
  | cons named rest ih =>
      have first := restorable named List.mem_cons_self
      have lines := Document.map_ofText_writtenSection first.legible false
      rw [if_neg fun omits => Bool.false_ne_true omits.1] at lines
      have grouped : (Document.writtenSection false named
            ++ rest.flatMap (Document.writtenSection false)).map Line.ofText ++ [.blank]
          = .header named.1 :: (named.2.map (fun pair => pair.2.line) ++ .blank
            :: ((rest.flatMap (Document.writtenSection false)).map Line.ofText ++ [.blank])) := by
        rw [List.map_append, lines]
        simp only [List.append_assoc, List.singleton_append]
        rfl
      rw [List.flatMap_cons, grouped, storeLines_block first.valued, List.foldl_cons]
      exact ih fun named member => restorable named (List.mem_cons_of_mem _ member)

/-- The blocks that the lines of sections are read as where a section is open. The section without a
name has no header if it comes first and is not empty, and its lines then belong to the
section that is open.
-/
def blocksAfter (inSection : Text) : Sections → Sections
  | [] => []
  | named :: rest =>
    (if named.1 = Document.noSection ∧ !named.2.isEmpty then inSection else named.1, named.2) :: rest

theorem blocksAfter_noSection (sections : Sections)
    : blocksAfter Document.noSection sections = sections := by
  cases sections with
  | nil => rfl
  | cons named rest =>
      rw [blocksAfter]
      split
      · next omits => rw [← omits.1]
      · rfl

/-- The lines of sections extend those that are there by the blocks that they are read as. -/
theorem storeLines_written (inSection : Text) (sections : Sections) {blocks : Sections}
    (restorable : ∀ named ∈ blocks, Restorable readings named)
    : storeLines readings inSection sections
        ((Document.written blocks).map Line.ofText ++ [.blank])
      = (blocksAfter inSection blocks).foldl extend sections := by
  cases blocks with
  | nil => exact storeLines_blank []
  | cons named rest =>
      have first := restorable named List.mem_cons_self
      obtain ⟨tail, isTail⟩ : ∃ tail,
          tail = (rest.flatMap (Document.writtenSection false)).map Line.ofText ++ [.blank] :=
        ⟨_, rfl⟩
      have others (open' : Text) (before : Sections)
          : storeLines readings open' before tail = rest.foldl extend before :=
        isTail ▸ storeLines_others fun pair member =>
          restorable pair (List.mem_cons_of_mem _ member)
      rw [Document.written, List.map_append, List.append_assoc, ← isTail,
        Document.map_ofText_writtenSection first.legible true, blocksAfter]
      simp only [List.append_assoc, List.singleton_append, true_and]
      split
      · next omits =>
          have nonempty : named.2 ≠ [] := fun empty => by
            rw [empty] at omits
            cases omits.2
          rw [List.nil_append, storeLines_headerless nonempty first.valued, others]
          rfl
      · rw [List.singleton_append, storeLines_block first.valued, others]
        rfl

end Sections

-----------------------------------------------------------------------------------------
-- The document of a text as text
-----------------------------------------------------------------------------------------

namespace Document

variable {d : Document} {text : Text} {readings : Text → Reading}

/-- Every placed line of a text is read from a line without line ends, in a legible section. -/
theorem legible_of_mem_ofText {l : PlacedLine} (member : l ∈ PlacedLine.ofText text)
    : LegibleName l.inSection ∧ ∃ t, Text.Unbroken t ∧ Line.ofText t = l.line := by
  have ofLine {line : Line} (inLines : line ∈ (Text.lines text).map Line.ofText)
      : ∃ t, Text.Unbroken t ∧ Line.ofText t = line := by
    obtain ⟨t, inText, read⟩ := List.mem_map.mp inLines
    exact ⟨t, Text.unbroken_of_mem_lines inText, read⟩
  obtain ⟨inLines, placed⟩ := PlacedLine.of_mem_place member
  refine ⟨?_, ofLine inLines⟩
  rcases placed with unnamed | header
  · rw [unnamed]
    exact ⟨by decide, by decide⟩
  · obtain ⟨t, unbroken, read⟩ := ofLine header
    exact .of_line unbroken read

/-- All sections of the document of a text are restorable. -/
theorem IsOf.restorable (isOf : d.IsOf text readings)
    : ∀ named ∈ d.sections, Sections.Restorable readings named := by
  have headers (l : PlacedLine) (member : l ∈ PlacedLine.ofText text) (name : Text)
      (isHeader : l.line = .header name)
      : LegibleName name := by
    obtain ⟨_, t, unbroken, read⟩ := legible_of_mem_ofText member
    exact .of_line unbroken (read.trans isHeader)
  have added (l : PlacedLine) (member : l ∈ PlacedLine.ofText text) (entry : Entry)
      (adds : l.entry? readings = some entry)
      : LegibleName l.inSection
        ∧ entry.Legible ∧ entry.reread readings = entry := by
    obtain ⟨isNamed, t, unbroken, read⟩ := legible_of_mem_ofText member
    obtain ⟨sameLine, valued⟩ := PlacedLine.of_entry? adds
    exact ⟨isNamed, .of_line unbroken (read.trans sameLine), valued⟩
  have entries := Sections.foldl_storeLine_entries headers added
  have filled : Sections.Each (fun _ => True) Entries.Filled d.sections := by
    rw [isOf]
    refine Sections.foldl_storeLine_each .nil (fun _ _ _ _ => trivial)
      (fun l _ entry _ => ⟨trivial, fun _ filled => filled.add entry⟩) ?_
    exact fun _ member => by cases member
  intro named member
  have holds := entries named (isOf ▸ member)
  exact ⟨⟨holds.1, fun pair inEntries => (holds.2 pair inEntries).1⟩, (filled named member).2,
    fun pair inEntries => (holds.2 pair inEntries).2⟩

theorem exists_of_mem_written {sections : Sections} {t : Text} (member : t ∈ written sections)
    : ∃ first, ∃ named ∈ sections, t ∈ writtenSection first named := by
  rw [written_eq] at member
  obtain ⟨row, inRows, isText⟩ := List.mem_map.mp member
  obtain ⟨first, named, inDocument, inSection⟩ := exists_of_mem_rows inRows
  refine ⟨first, named, inDocument, ?_⟩
  rw [writtenSection_eq]
  exact List.mem_map.mpr ⟨row, inSection, isText⟩

theorem IsOf.unbroken_written (isOf : d.IsOf text readings)
    : ∀ line ∈ Document.written d.sections, Text.Unbroken line := by
  intro line member
  obtain ⟨first, named, inDocument, inSection⟩ := exists_of_mem_written member
  exact unbroken_writtenSection (isOf.restorable named inDocument).legible first line inSection

/-- The lines of the text that a document of a text is written as. -/
theorem IsOf.lines_written (isOf : d.IsOf text readings) {lineEnd : Text}
    (isEnd : lineEnd ∈ Text.lineEnds)
    : Text.lines ((written d.sections).flatMap (· ++ lineEnd)) = written d.sections ++ [[]] :=
  Text.lines_flatMap isEnd isOf.unbroken_written

/-- The lines that a document of a text is written as fill its sections. -/
theorem IsOf.storeLines_written (isOf : d.IsOf text readings)
    : Sections.storeLines readings noSection []
        ((Document.written d.sections).map Line.ofText ++ [.blank])
      = d.sections := by
  rw [Sections.storeLines_written noSection [] isOf.restorable, Sections.blocksAfter_noSection]
  exact Sections.foldl_extend_of_nodup isOf.distinct.names fun named member =>
    (isOf.restorable named member).filled

/-- The document of a text is the document of the text that it is written as. -/
theorem IsOf.written (isOf : d.IsOf text readings) {lineEnd : Text}
    (isEnd : lineEnd ∈ Text.lineEnds)
    : d.IsOf ((Document.written d.sections).flatMap (· ++ lineEnd)) readings := by
  rw [IsOf, PlacedLine.ofText, isOf.lines_written isEnd, List.map_append]
  exact isOf.storeLines_written.symm

/-- The raw texts of the lines that a document is written as are raw texts of the document. -/
theorem IsOf.raw_of_written_line (isOf : d.IsOf text readings) {key raw : Text}
    (member : .keyValue key raw ∈ (Document.written d.sections).map Line.ofText)
    : raw ∈ d.rawValues := by
  obtain ⟨t, isWritten, read⟩ := List.mem_map.mp member
  obtain ⟨first, named, inDocument, inSection⟩ := exists_of_mem_written isWritten
  obtain ⟨pair, inEntries, kv, isKey, rfl⟩ := exists_of_read_keyValue
    (isOf.restorable named inDocument).legible (List.mem_map.mpr ⟨t, inSection, read⟩)
  exact raw_mem_rawValues inDocument inEntries isKey

/-- The raw texts of the text that a document is written as are raw texts of the document. -/
theorem IsOf.raw_of_mem_written (isOf : d.IsOf text readings) {lineEnd : Text}
    (isEnd : lineEnd ∈ Text.lineEnds) {raw : Text}
    (member : raw ∈ (PlacedLine.ofText
      ((Document.written d.sections).flatMap (· ++ lineEnd))).filterMap (·.raw?))
    : raw ∈ d.rawValues := by
  obtain ⟨key, inLines⟩ := PlacedLine.mem_raws_iff.mp member
  rw [isOf.lines_written isEnd, List.map_append] at inLines
  rcases List.mem_append.mp inLines with isWritten | isLast
  · exact isOf.raw_of_written_line isWritten
  · cases List.mem_singleton.mp isLast

end Document

-----------------------------------------------------------------------------------------
-- Writing and parsing
-----------------------------------------------------------------------------------------

namespace Pipeline

variable {p : Pipeline} {scope : Scope} {expand : Bool} {text : Text} {d next : Document}

/-- Any number of resolutions in a state leave the document of a text by the readings of that
state one, by induction on their number.
-/
theorem isOf_of_resolutions (isOf : d.IsOf text (p.readings scope expand))
    (resolutions : Relation.ReflTransGen (p.ResolvesTo scope expand) d next)
    : next.IsOf text (p.readings scope expand) := by
  induction resolutions with
  | refl => exact isOf
  | tail _ last ih => exact last.isOf ih

/-- With raw texts every document is written, and nothing else happens. -/
theorem dumps_unexpanded (p : Pipeline) (d : Document) (world : World)
    : p.dumps d "unexpanded".toList world
      = (.ok ((Document.written d.sections).flatMap (· ++ p.newline)), world) := by
  have mode : OutputMode.ofName? "unexpanded".toList = some .unexpanded := by decide
  unfold dumps
  rw [mode]
  dsimp only
  rw [Document.text?_unexpanded]
  rfl

/-- A text is parsed to its document if no trial is interrupted and all its raw texts are admitted.
-/
theorem parse_of_admits (running : p.interruption = none)
    (admits : ∀ raw ∈ (PlacedLine.ofText text).filterMap (·.raw?), p.Admits scope expand raw)
    (world : World)
    : ∃ d after, p.parse scope expand text world = (.ok d, after)
        ∧ d.IsOf text (p.readings scope expand) := by
  have settled := p.parse_settles scope expand text
  rw [parsed_eq_ok_iff.mpr ⟨running, admits, rfl⟩] at settled
  obtain ⟨after, ran⟩ := settled.runs world
  exact ⟨_, after, ran, Builder.sections_foldl_storeLine _ _⟩

/-- A document that has been parsed, and resolved any number of times in the same state, is written
with its raw texts in every world, and in every world the written text is parsed to an equal
document, whichever way its lines end.
Witness: every written line is read as the header or entry that it was written for, every section
is filled anew by its own entries in their order, and no raw text is written that was not in
the first text.
-/
theorem parse_dumps_unexpanded {lineEnd : Text}
    (parsed : p.ParsesTo scope expand text d)
    (resolutions : Relation.ReflTransGen (p.ResolvesTo scope expand) d next)
    (isEnd : lineEnd ∈ Text.lineEnds)
    : ∃ written,
        (∀ world,
          ({ p with newline := lineEnd } : Pipeline).dumps next "unexpanded".toList world
            = (.ok written, world))
        ∧ ∀ world, ∃ again after,
          p.parse scope expand written world = (.ok again, after)
          ∧ again.sections = next.sections
          ∧ again.same next = true := by
  obtain ⟨isOf, running, admits⟩ := parsed.isOf
  have nextIsOf := isOf_of_resolutions isOf resolutions
  refine ⟨_, dumps_unexpanded { p with newline := lineEnd } next, fun world => ?_⟩
  have admitsWritten : ∀ raw ∈ (PlacedLine.ofText ((Document.written next.sections).flatMap
      (· ++ lineEnd))).filterMap (·.raw?), p.Admits scope expand raw := fun raw member =>
    admits raw (nextIsOf.raw_mem (nextIsOf.raw_of_mem_written isEnd member))
  obtain ⟨again, after, ran, againIsOf⟩ := parse_of_admits running admitsWritten world
  have equal : again.sections = next.sections :=
    againIsOf.trans (nextIsOf.written isEnd).symm
  exact ⟨again, after, ran, equal, same_of_isOf nextIsOf admits equal⟩

/-- A document of two notes, of which the second has lost its name to a key. -/
def twoNotes : Document where
  sections := [
    (Document.noSection, [("Comment1".toList, .comment "; one".toList)]),
    (['s'], [
      ("Comment2".toList, .comment "; two".toList),
      ("Comment1".toList, .keyValue ⟨"Comment1".toList, " $n]".toList, .string " 1]".toList⟩)])]

/-- The two notes, written with paired line ends. -/
theorem parse_dumps_unexpanded_twoNotes
    : ({} : Pipeline).ParsesTo { bindings := [(['n'], .value (.int 1))] } false
        "; one\n\n[s]\n; two\n Comment1 = $n]".toList twoNotes
      ∧ ∃ written,
        (∀ world,
          ({ newline := ['\r', '\n'] } : Pipeline).dumps twoNotes "unexpanded".toList world
            = (.ok written, world))
        ∧ ∀ world, ∃ again after,
          ({} : Pipeline).parse { bindings := [(['n'], .value (.int 1))] } false written world
            = (.ok again, after)
          ∧ again.sections = twoNotes.sections
          ∧ again.same twoNotes = true := by
  have parsed : ({} : Pipeline).ParsesTo { bindings := [(['n'], .value (.int 1))] } false
      "; one\n\n[s]\n; two\n Comment1 = $n]".toList twoNotes :=
    parsesTo_of_toOption (by decide +kernel)
  exact ⟨parsed, parse_dumps_unexpanded parsed .refl (by decide)⟩

end Pipeline

end LiveIni
