import LiveIni.Proofs.Document.BuilderHistory
import LiveIni.Proofs.Document.Placement
import LiveIni.Proofs.Pipeline.Resolution
import Mathlib.Data.List.Basic

/-!
What a parsed document tells of the lines of its text. No line is lost silently: comments are all
kept, a key has its last raw text, every earlier one is noted as replaced by a duplicate, and
every line that could not be read is noted with its place.
-/

namespace LiveIni

namespace PlacedLine

/-- The key of a line with a value. -/
def key? (l : PlacedLine) : Option Text :=
  match l.line with
  | .keyValue key _ => some key
  | _ => none

/-- The raw text of a line with this key. -/
def rawOf? (key : Text) (l : PlacedLine) : Option Text :=
  match l.line with
  | .keyValue found raw => if found = key then some raw else none
  | _ => none

/-- The text of a comment line. -/
def comment? (l : PlacedLine) : Option Text :=
  match l.line with
  | .comment text => some text
  | _ => none

/-- The mark of a line that adds an entry. -/
def entryMark? (l : PlacedLine) : Option Mark :=
  match l.line with
  | .comment text => some (.comment text)
  | .keyValue key _ => some (.key key)
  | _ => none

variable (readings : Text → Reading) (l : PlacedLine)

/-- What a line adds, as comments, keys with raw texts and marks. -/
theorem of_entry?_views
    : (l.entry? readings).bind Entry.comment? = l.comment?
      ∧ (l.entry? readings).map Entry.mark = l.entryMark?
      ∧ ∀ key, ((l.entry? readings).bind Entry.keyValue?).bind
          (fun kv => if kv.key = key then some kv.raw else none) = l.rawOf? key := by
  obtain ⟨number, inSection, line⟩ := l
  cases line <;> exact ⟨rfl, rfl, fun _ => rfl⟩

end PlacedLine

namespace Document

/-- The lines of a text that belong to a section, from all of its blocks. -/
def linesOf (text name : Text) : List PlacedLine :=
  (PlacedLine.ofText text).filter (·.inSection = name)

/-- The raw text of a key in a section. -/
def raw? (d : Document) (inSection key : Text) : Option Text :=
  match d.entry? inSection key with
  | some (.keyValue kv) => some kv.raw
  | _ => none

end Document

-----------------------------------------------------------------------------------------
-- What lines add to sections
-----------------------------------------------------------------------------------------

namespace Sections

variable {readings : Text → Reading} {name : Text}

/-- The entries that lines add to a section. -/
def addedBy (readings : Text → Reading) (name : Text) (lines : List PlacedLine) : List Entry :=
  (lines.filter (·.inSection = name)).filterMap fun l => l.entry? readings

theorem entriesOf_storeLine (sections : Sections) (l : PlacedLine)
    : (sections.storeLine readings l).entriesOf name
      = (if l.inSection = name then l.entry? readings else none).toList.foldl Entries.add
          (sections.entriesOf name) := by
  have kept (added : Option Entry) (none : added = none)
      : sections.entriesOf name
        = (if l.inSection = name then added else .none).toList.foldl Entries.add
            (sections.entriesOf name) := by
    rw [none, ite_self]
    rfl
  obtain ⟨number, inSection, line⟩ := l
  cases line with
  | blank => exact kept none rfl
  | malformed text => exact kept none rfl
  | header opened => exact (sections.entriesOf_openSection opened name).trans (kept none rfl)
  | comment text => exact sections.entriesOf_update_add inSection _ name
  | keyValue key raw => exact sections.entriesOf_update_add inSection _ name

/-- Every section is filled by what its lines add. -/
theorem entriesOf_foldl_storeLine (readings : Text → Reading) (lines : List PlacedLine)
    (name : Text)
    : entriesOf (lines.foldl (storeLine readings) []) name
      = Entries.ofList (addedBy readings name lines) := by
  have together : lines.filterMap
        (fun l => if l.inSection = name then l.entry? readings else none)
      = addedBy readings name lines := by
    rw [addedBy, List.filterMap_filter]
    refine List.filterMap_congr fun l _ => ?_
    by_cases same : l.inSection = name <;> simp [same]
  rw [entriesOf_foldl fun sections l => entriesOf_storeLine sections l, together]
  rfl

/-- Every section records what its lines have added. -/
theorem records_foldl_storeLine (readings : Text → Reading) (lines : List PlacedLine)
    (name : Text)
    : (entriesOf (lines.foldl (storeLine readings) []) name).Records
        (addedBy readings name lines) := by
  rw [entriesOf_foldl_storeLine]
  exact Entries.records_ofList _

theorem comments_addedBy (lines : List PlacedLine)
    : (addedBy readings name lines).filterMap Entry.comment?
      = (lines.filter (·.inSection = name)).filterMap (·.comment?) := by
  rw [addedBy, List.filterMap_filterMap]
  exact List.filterMap_congr fun l _ => (l.of_entry?_views readings).1

theorem marks_addedBy (lines : List PlacedLine)
    : (addedBy readings name lines).map Entry.mark
      = (lines.filter (·.inSection = name)).filterMap (·.entryMark?) := by
  rw [addedBy, List.map_filterMap]
  exact List.filterMap_congr fun l _ => (l.of_entry?_views readings).2.1

/-- The last value of a key comes from the last line of the key. -/
theorem lastFor_addedBy (readings : Text → Reading) (lines : List PlacedLine) (name key : Text)
    : (Entry.lastFor key (addedBy readings name lines)).map KeyValue.raw
      = ((lines.filter (·.inSection = name)).filterMap (·.rawOf? key)).getLast? := by
  rw [Entry.lastFor, ← List.getLast?_map, ← List.filterMap_eq_map, List.filterMap_filter,
    List.filterMap_filterMap, addedBy, List.filterMap_filterMap]
  congr 1
  refine List.filterMap_congr fun l _ => ?_
  rw [← (l.of_entry?_views readings).2.2 key]
  cases l.entry? readings with
  | none => rfl
  | some entry => cases entry <;> simp [Entry.keyValue?]

end Sections

namespace Document

variable {d : Document} {text : Text} {readings : Text → Reading}

theorem entry?_eq (d : Document) (inSection name : Text)
    : d.entry? inSection name = (Sections.entriesOf d.sections inSection).get? name := by
  unfold entry? Sections.entriesOf
  cases Table.get? inSection d.sections <;> rfl

theorem IsOf.records (isOf : d.IsOf text readings) (name : Text)
    : (Sections.entriesOf d.sections name).Records
        (Sections.addedBy readings name (PlacedLine.ofText text)) := by
  rw [isOf]
  exact Sections.records_foldl_storeLine readings _ name

/-- A key has the raw text that was added for it last. -/
theorem raw?_of_records {name : Text} {added : List Entry}
    (records : (Sections.entriesOf d.sections name).Records added) (key : Text)
    : d.raw? name key = (Entry.lastFor key added).map KeyValue.raw := by
  rw [raw?, entry?_eq]
  cases last : Entry.lastFor key added with
  | some kv =>
      rw [records.get?_eq_some_iff.mpr last]
      rfl
  | none =>
      split
      · next kv found =>
          rw [records.get?_eq_some_iff, last] at found
          cases found
      · rfl

/-- A key of the document of a text has the raw text of its last line. -/
theorem IsOf.raw?_eq (isOf : d.IsOf text readings) (name key : Text)
    : d.raw? name key = ((linesOf text name).filterMap (·.rawOf? key)).getLast? :=
  (raw?_of_records (isOf.records name) key).trans (Sections.lastFor_addedBy readings _ name key)

end Document

-----------------------------------------------------------------------------------------
-- What is noted of lines
-----------------------------------------------------------------------------------------

namespace Builder

variable {b : Builder} {readings : Text → Reading} {name key : Text}

/-- The problem is that a key of a section occurs again. -/
def IsDuplicateOf (name key : Text) (d : Diagnostic) : Prop :=
  d.kind = .duplicateKey ∧ d.inSection = some name ∧ d.key = some key

instance (name key : Text) : DecidablePred (IsDuplicateOf name key) :=
  fun _ => inferInstanceAs (Decidable (_ ∧ _ ∧ _))

theorem addEntry_diagnostics (b : Builder) (inSection name : Text) (entry : Entry)
    : (b.addEntry inSection name entry).1.diagnostics = b.diagnostics := by
  unfold addEntry
  dsimp only
  split <;> rfl

/-- A value is stored with at most two notes: that its number fits no type, and that its key is
not new, which is so if the section has it already.
-/
theorem storeValue_diagnostics (b : Builder) (number : Nat) (inSection key raw : Text)
    (reading : Reading)
    : ∃ (invalid : List Diagnostic) (new : Bool),
        (∀ d ∈ invalid, d.kind = .invalidNumber)
        ∧ (new = false ↔ ∃ held, (b.entriesOf inSection).get? key = some (.keyValue held))
        ∧ (b.storeValue number inSection key raw reading).diagnostics
          = b.diagnostics ++ invalid
            ++ if new then [] else [Pipeline.duplicateKey number inSection key] := by
  obtain ⟨invalid, isInvalid, noted, sections⟩ : ∃ invalid : List Diagnostic,
      (∀ d ∈ invalid, d.kind = .invalidNumber)
      ∧ (b.noteInvalid (some number) inSection key reading.2).diagnostics
        = b.diagnostics ++ invalid
      ∧ (b.noteInvalid (some number) inSection key reading.2).entriesOf inSection
        = b.entriesOf inSection := by
    cases reading.2 with
    | none => exact ⟨[], by simp, (List.append_nil _).symm, rfl⟩
    | some literal => exact ⟨[_], by simp [Pipeline.invalidNumber], rfl, rfl⟩
  have answer := addEntry_eq_false_iff (b.noteInvalid (some number) inSection key reading.2)
    inSection ⟨key, raw, reading.1⟩
  rw [sections] at answer
  refine ⟨invalid, _, isInvalid, answer, ?_⟩
  have stored := (addEntry_diagnostics (b.noteInvalid (some number) inSection key reading.2)
    inSection key (.keyValue ⟨key, raw, reading.1⟩)).trans noted
  unfold storeValue
  dsimp only
  split
  · rw [stored, List.append_nil]
  · rw [report, stored]

/-- Storing lines notes no malformed line, since these have been noted before. -/
theorem malformed_storeLine (b : Builder) (l : PlacedLine)
    : (b.storeLine readings l).diagnostics.filter (·.kind = .malformedLine)
      = b.diagnostics.filter (·.kind = .malformedLine) := by
  obtain ⟨number, inSection, line⟩ := l
  cases line with
  | blank | header _ | comment _ | malformed _ => rfl
  | keyValue key raw =>
      obtain ⟨invalid, new, isInvalid, _, noted⟩ :=
        b.storeValue_diagnostics number inSection key raw (readings raw)
      have none : invalid.filter (·.kind = .malformedLine) = [] := by
        refine List.filter_eq_nil_iff.mpr fun d member => ?_
        rw [isInvalid d member]
        decide
      change (b.storeValue number inSection key raw (readings raw)).diagnostics.filter _ = _
      rw [noted, List.filter_append, List.filter_append, none]
      cases new <;> simp [Pipeline.duplicateKey]

/-- Storing a line notes a duplicate of a key if it is a line of the key and the section has the
key already.
-/
theorem duplicates_storeLine (readings : Text → Reading) (name key : Text) (b : Builder)
    (l : PlacedLine)
    : ∃ new : Bool,
        (new = false ↔ (l.inSection = name ∧ l.key? = some key)
          ∧ ∃ held, (b.entriesOf name).get? key = some (.keyValue held))
        ∧ (b.storeLine readings l).diagnostics.filter (IsDuplicateOf name key)
          = b.diagnostics.filter (IsDuplicateOf name key)
            ++ if new then [] else [Pipeline.duplicateKey l.number name key] := by
  obtain ⟨number, inSection, line⟩ := l
  cases line with
  | blank | header _ | comment _ | malformed _ =>
      exact ⟨true, by simp [PlacedLine.key?], (List.append_nil _).symm⟩
  | keyValue found raw =>
      obtain ⟨invalid, new, isInvalid, isNew, noted⟩ :=
        b.storeValue_diagnostics number inSection found raw (readings raw)
      have none : invalid.filter (IsDuplicateOf name key) = [] := by
        refine List.filter_eq_nil_iff.mpr fun d member isDuplicate => ?_
        have kind := (of_decide_eq_true isDuplicate).1
        rw [isInvalid d member] at kind
        cases kind
      change ∃ _, _ ∧ (b.storeValue number inSection found raw (readings raw)).diagnostics.filter _
        = _
      rw [noted, List.filter_append, List.filter_append, none, List.append_nil]
      by_cases same : inSection = name ∧ found = key
      · obtain ⟨rfl, rfl⟩ := same
        refine ⟨new, by simpa [PlacedLine.key?] using isNew, ?_⟩
        cases new <;> simp [Pipeline.duplicateKey, IsDuplicateOf]
      · have other : ¬(inSection = name ∧ some found = some key) := fun both =>
          same ⟨both.1, Option.some.inj both.2⟩
        refine ⟨true, ?_, ?_⟩
        · exact ⟨fun old => absurd old.symm Bool.false_ne_true, fun isLine => absurd isLine.1 other⟩
        · cases new with
          | true => rfl
          | false =>
              have noDuplicate
                  : ¬IsDuplicateOf name key (Pipeline.duplicateKey number inSection found) :=
                fun duplicate => other
                  ⟨Option.some.inj duplicate.2.1, duplicate.2.2⟩
              rw [if_neg Bool.false_ne_true, List.filter_cons_of_neg (by simpa using noDuplicate)]
              rfl

theorem diagnostics_ofMalformed (lines : List PlacedLine)
    : (ofMalformed lines).diagnostics = lines.filterMap (·.malformed?) := by
  have noted (diagnostics : List Diagnostic) (b : Builder)
      : (diagnostics.foldl report b).diagnostics = b.diagnostics ++ diagnostics := by
    induction diagnostics generalizing b with
    | nil => exact (List.append_nil _).symm
    | cons d rest ih => rw [List.foldl_cons, ih, report, List.append_assoc]; rfl
  exact noted _ {}

theorem kind_of_malformed? {l : PlacedLine} {d : Diagnostic} (malformed : l.malformed? = some d)
    : d.kind = .malformedLine ∧ d.line = some l.number := by
  unfold PlacedLine.malformed? at malformed
  split at malformed
  · cases malformed
    exact ⟨rfl, rfl⟩
  · cases malformed

/-- The malformed lines are noted before any line is stored, and none is afterwards, by induction on
the lines.
-/
theorem malformed_foldl (lines more : List PlacedLine)
    : (more.foldl (storeLine readings) (ofMalformed lines)).diagnostics.filter
          (·.kind = .malformedLine)
      = lines.filterMap (·.malformed?) := by
  have kept (b : Builder)
      : (more.foldl (storeLine readings) b).diagnostics.filter (·.kind = .malformedLine)
        = b.diagnostics.filter (·.kind = .malformedLine) := by
    induction more generalizing b with
    | nil => rfl
    | cons l rest ih => rw [List.foldl_cons, ih, malformed_storeLine]
  rw [kept, diagnostics_ofMalformed]
  refine List.filter_eq_self.mpr fun d member => ?_
  obtain ⟨l, _, malformed⟩ := List.mem_filterMap.mp member
  exact decide_eq_true (kind_of_malformed? malformed).1

/-- The lines of a section with a key. -/
def keyLines (name key : Text) (lines : List PlacedLine) : List PlacedLine :=
  (lines.filter (·.inSection = name)).filter (·.key? = some key)

theorem keyLines_concat (before : List PlacedLine) (l : PlacedLine)
    : keyLines name key (before ++ [l])
      = keyLines name key before
        ++ if l.inSection = name ∧ l.key? = some key then [l] else [] := by
  unfold keyLines
  by_cases placed : l.inSection = name
  · by_cases isKey : l.key? = some key <;> simp [placed, isKey]
  · simp [placed]

/-- A section that lines fill has a key exactly if one of its lines has. -/
theorem held_iff_keyLines (readings : Text → Reading) (name key : Text)
    (lines : List PlacedLine)
    : (∃ held, (Sections.entriesOf (lines.foldl (Sections.storeLine readings) []) name).get? key
        = some (.keyValue held))
      ↔ keyLines name key lines ≠ [] := by
  have isKey (l : PlacedLine) : l.entryMark? = some (.key key) ↔ l.key? = some key := by
    obtain ⟨number, inSection, line⟩ := l
    cases line <;> simp [PlacedLine.entryMark?, PlacedLine.key?]
  rw [(Sections.records_foldl_storeLine readings lines name).get?_isKey_iff, Sections.marks_addedBy,
    List.mem_filterMap, keyLines, Ne, List.filter_eq_nil_iff]
  simp only [isKey, decide_eq_true_eq, not_forall, not_not, exists_prop]

/-- Every line that repeats a key is noted as a duplicate, by induction from the last line. -/
theorem duplicates_foldl (readings : Text → Reading) (name key : Text)
    (all lines : List PlacedLine)
    : (lines.foldl (storeLine readings) (ofMalformed all)).diagnostics.filter
          (IsDuplicateOf name key)
      = (keyLines name key lines).tail.map
          fun l => Pipeline.duplicateKey l.number name key := by
  induction lines using List.reverseRecOn with
  | nil =>
      refine List.filter_eq_nil_iff.mpr fun d member isDuplicate => ?_
      rw [List.foldl_nil, diagnostics_ofMalformed] at member
      obtain ⟨l, _, malformed⟩ := List.mem_filterMap.mp member
      have kind := (of_decide_eq_true isDuplicate).1
      rw [(kind_of_malformed? malformed).1] at kind
      cases kind
  | append_singleton before l ih =>
      have builds : (before.foldl (storeLine readings) (ofMalformed all)).Builds
          (before.foldl (Sections.storeLine readings) []) :=
        (Builds.ofMalformed all).foldl fun l _ _ _ builds => builds.storeLine l
      obtain ⟨new, isNew, noted⟩ := duplicates_storeLine readings name key
        (before.foldl (storeLine readings) (ofMalformed all)) l
      have held := held_iff_keyLines readings name key before
      rw [← builds.1] at held
      rw [List.foldl_append, List.foldl_cons, List.foldl_nil, noted, ih, keyLines_concat]
      by_cases isLine : l.inSection = name ∧ l.key? = some key
      · rw [if_pos isLine]
        cases lines : keyLines name key before with
        | nil =>
            have isNew : new = true := eq_true_of_ne_false fun old =>
              held.mp (isNew.mp old).2 lines
            rw [isNew]
            rfl
        | cons first rest =>
            have isOld : new = false := isNew.mpr ⟨isLine, held.mpr (by rw [lines]; simp)⟩
            rw [isOld, List.cons_append, List.tail_cons, List.tail_cons, List.map_append]
            rfl
      · have isNew : new = true := eq_true_of_ne_false fun old =>
          isLine (isNew.mp old).1
        rw [isNew, if_neg isLine, List.append_nil]
        exact List.append_nil _

end Builder

-----------------------------------------------------------------------------------------
-- The account of a text
-----------------------------------------------------------------------------------------

/-- What a document tells of the lines of a text. -/
structure Document.AccountsFor (d : Document) (text : Text) : Prop where
  /-- The comments of a section are those of all its blocks, in order. -/
  comments : ∀ name, (Sections.entriesOf d.sections name).comments
    = (linesOf text name).filterMap (·.comment?)
  /-- A key has the raw text of its last line, and no key is without a line. -/
  raws : ∀ name key, d.raw? name key = ((linesOf text name).filterMap (·.rawOf? key)).getLast?
  /-- Every key stands under itself, and no name stands twice. -/
  names : ∀ name, (Sections.entriesOf d.sections name).OwnKeys
    ∧ (Sections.entriesOf d.sections name).names.Nodup
  /-- Keys and comments stand in the order in which they first came. -/
  order : ∀ name, (Sections.entriesOf d.sections name).map (·.2.mark)
    = Mark.firsts ((linesOf text name).filterMap (·.entryMark?))
  /-- Every line of a key but the first is noted as a duplicate, with its number. -/
  duplicates : ∀ name key, d.diagnostics.filter (Builder.IsDuplicateOf name key)
    = ((linesOf text name).filter (·.key? = some key)).tail.map
        fun l => Pipeline.duplicateKey l.number name key
  /-- The malformed lines are noted in order, and no others. -/
  malformed : d.diagnostics.filter (·.kind = .malformedLine)
    = (PlacedLine.ofText text).filterMap (·.malformed?)

/-- Among lines that are placed elsewhere, no malformed one is noted with this number. -/
theorem PlacedLine.filter_malformed_eq_nil {number : Nat} {lines : List PlacedLine}
    (elsewhere : ∀ l ∈ lines, l.number ≠ number)
    : (lines.filterMap (·.malformed?)).filter (·.line = some number) = [] := by
  refine List.filter_eq_nil_iff.mpr fun d member isHere => ?_
  obtain ⟨l, inLines, malformed⟩ := List.mem_filterMap.mp member
  have line := of_decide_eq_true isHere
  rw [(Builder.kind_of_malformed? malformed).2] at line
  exact elsewhere l inLines (Option.some.inj line)

/-- A malformed line is noted exactly once, with its number and the section that is open there. -/
theorem Document.AccountsFor.malformed_at {d : Document} {text : Text}
    (accounts : d.AccountsFor text) {before after : List Text} {line shown : Text}
    (cut : Text.lines text = before ++ line :: after)
    (malformed : Line.ofText line = .malformed shown)
    : d.diagnostics.filter (fun g => g.line = some (before.length + 1) && g.kind = .malformedLine)
      = [{
          kind := .malformedLine
          message := "Malformed line skipped: ".toList ++ Text.quoted line
          line := some (before.length + 1)
          inSection := some (Line.openAfter noSection (before.map Line.ofText)) }] := by
  obtain rfl := Line.eq_of_ofText_malformed malformed
  have placed := PlacedLine.ofText_eq_append cut
  rw [List.map_append, List.map_singleton, Line.openAfter_concat, malformed] at placed
  have noted : (⟨before.length + 1,
        (Line.malformed shown).header?.getD (Line.openAfter noSection (before.map Line.ofText)),
        .malformed shown⟩ : PlacedLine).malformed?
      = some {
          kind := .malformedLine
          message := "Malformed line skipped: ".toList ++ Text.quoted shown
          line := some (before.length + 1)
          inSection := some (Line.openAfter noSection (before.map Line.ofText)) } := rfl
  rw [← List.filter_filter, accounts.malformed, placed, List.filterMap_append,
    List.filterMap_cons_some noted, List.filter_append, PlacedLine.filter_malformed_eq_nil,
    List.nil_append, List.filter_cons_of_pos (by simp),
    PlacedLine.filter_malformed_eq_nil]
  · intro l member
    have bounds := PlacedLine.number_of_mem_place member
    omega
  · intro l member
    have bounds := PlacedLine.number_of_mem_place member
    rw [List.length_map] at bounds
    omega

namespace Pipeline

variable {p : Pipeline} {scope : Scope} {expand : Bool} {text : Text} {d : Document}

/-- A parsed document accounts for all lines of its text. -/
theorem ParsesTo.accountsFor (parsed : p.ParsesTo scope expand text d) : d.AccountsFor text := by
  obtain ⟨isOf, _, _⟩ := parsed.isOf
  obtain ⟨world, after, ran⟩ := parsed
  obtain ⟨_, _, built⟩ := parsed_eq_ok_iff.mp ((p.parse_settles scope expand text).result_eq ran)
  have records := isOf.records
  exact {
    comments := fun name => (records name).comments.trans (Sections.comments_addedBy _)
    raws := isOf.raw?_eq
    names := fun name => ⟨(records name).own, (records name).distinct⟩
    order := fun name => (records name).order.trans (congrArg _ (Sections.marks_addedBy _))
    duplicates := fun name key => by
      rw [built]
      exact Builder.duplicates_foldl _ name key _ _
    malformed := by
      rw [built]
      exact Builder.malformed_foldl _ _ }

/-- A text that is parsed loses no line silently. In every section the comments are the comment lines
of all its blocks in order; a key has the raw text of its last line; comments and keys stand
in the order in which they first came; and every line of a key but the first is noted as a
duplicate, with its number. Every line that is no blank line, header, comment, or key with a
value is noted as malformed, exactly once, with its number and the section that is open there.
Witness: a section records what its lines add one after the other, and a key is new to it just
if no line before has it.
-/
theorem parse_accounts_for_lines (parsed : p.ParsesTo scope expand text d)
    : d.sections.names.Nodup
      ∧ d.AccountsFor text
      ∧ ∀ before line after, Text.lines text = before ++ line :: after
        → ∀ shown, Line.ofText line = .malformed shown
        → d.diagnostics.filter
            (fun g => g.line = some (before.length + 1) && g.kind = .malformedLine)
          = [{
              kind := .malformedLine
              message := "Malformed line skipped: ".toList ++ Text.quoted line
              line := some (before.length + 1)
              inSection := some
                (Line.openAfter Document.noSection (before.map Line.ofText)) }] := by
  refine ⟨parsed.isOf.1.distinct.names, parsed.accountsFor, ?_⟩
  intro before line after cut shown malformed
  exact parsed.accountsFor.malformed_at cut malformed

/-- A section with two blocks, in which a key has taken the name of a comment and is set again. -/
def reopenedSection : Document where
  sections := [
    (['s'], [
      ("Comment2".toList, .comment "; one".toList),
      ("Comment1".toList, .keyValue ⟨"Comment1".toList, ['2'], .integer .int32 2⟩),
      ("Comment3".toList, .comment "; two".toList)]),
    (['t'], [])]
  diagnostics := [
    {
      kind := .malformedLine
      message := "Malformed line skipped: '?'".toList
      line := some 5
      inSection := some ['t'] },
    {
      kind := .duplicateKey
      message := "Duplicate key 'Comment1' in [s]; last value wins".toList
      line := some 8
      inSection := some ['s']
      key := some "Comment1".toList }]

/-- The two blocks, with a malformed line between them. -/
theorem parse_accounts_for_lines_reopenedSection
    : ({} : Pipeline).ParsesTo {} false
        "[s]\n; one\nComment1=1\n[t]\n?\n[s]\n; two\nComment1=2".toList reopenedSection
      ∧ reopenedSection.AccountsFor
        "[s]\n; one\nComment1=1\n[t]\n?\n[s]\n; two\nComment1=2".toList := by
  have parsed : ({} : Pipeline).ParsesTo {} false
      "[s]\n; one\nComment1=1\n[t]\n?\n[s]\n; two\nComment1=2".toList reopenedSection :=
    parsesTo_of_toOption (by decide +kernel)
  exact ⟨parsed, (parse_accounts_for_lines parsed).2.1⟩

end Pipeline

end LiveIni
