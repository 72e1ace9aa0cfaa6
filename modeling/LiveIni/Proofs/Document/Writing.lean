import LiveIni.Proofs.Document.Legibility
import LiveIni.Proofs.Document.Rows

/-!
Documents as they are written with their raw texts. This never fails, every entry takes one line,
and the lines are read as the headers and entries that they were written for.
-/

namespace LiveIni

open Text

namespace Entry

/-- The line that says what an entry says, but for its value. -/
def line : Entry → Line
  | comment text => .comment text
  | keyValue kv => .keyValue kv.key kv.raw

/-- The text of that line. -/
def written : Entry → Text
  | comment text => text
  | keyValue kv => Document.pairLine kv.key kv.raw

/-- The entry is written as a line that is read as the entry. -/
structure Legible (entry : Entry) : Prop where
  read : Line.ofText entry.written = entry.line
  unbroken : Unbroken entry.written

/-- An entry that has been read from a line is legible. -/
theorem Legible.of_line {t : Text} {entry : Entry} (unbroken : Unbroken t)
    (read : Line.ofText t = entry.line)
    : entry.Legible := by
  cases entry with
  | comment text =>
      obtain rfl := Line.eq_of_ofText_comment read
      exact ⟨read, unbroken⟩
  | keyValue kv =>
      refine ⟨Line.ofText_pairLine read, ?_⟩
      obtain ⟨_, lead, trail, whole, _⟩ :=
        Line.key_of_keyAndRaw? (Line.keyAndRaw?_of_ofText read).2
      refine unbroken.of_subset fun c member => ?_
      rw [whole]
      rcases List.mem_append.mp member with inKey | inValue
      · exact List.mem_append_left _ (List.mem_append_left _ (List.mem_append_right _ inKey))
      · exact List.mem_append_right _ inValue

end Entry

/-- The name of a section whose header is written as a line that is read as the header. -/
def Document.LegibleName (name : Text) : Prop :=
  name ≠ [] ∧ Unbroken name

theorem Document.LegibleName.of_line {t name : Text} (unbroken : Unbroken t)
    (read : Line.ofText t = .header name)
    : LegibleName name := by
  obtain ⟨lead, after, rfl, _, _, nonempty⟩ :=
    Line.headerName?_eq_some_iff.mp (Line.headerName?_of_ofText read)
  refine ⟨nonempty, unbroken.of_subset fun c member => ?_⟩
  exact List.mem_append_right _ (List.mem_cons_of_mem _ (List.mem_append_left _ member))

theorem Document.LegibleName.unbroken_headerLine {name : Text} (legible : LegibleName name)
    : Unbroken (headerLine name) := by
  intro c member
  simp only [headerLine, List.mem_cons, List.mem_append, List.cons_append, List.not_mem_nil,
    or_false] at member
  rcases member with rfl | inName | rfl
  · decide
  · exact legible.2 c inName
  · decide

-----------------------------------------------------------------------------------------
-- Sections as lines
-----------------------------------------------------------------------------------------

namespace Document

/-- The lines of a section with raw texts, which is the first one or not. -/
def writtenSection (first : Bool) (named : Text × Entries) : List Text :=
  (if first ∧ named.1 = noSection ∧ !named.2.isEmpty then [] else [headerLine named.1])
    ++ named.2.map (fun pair => pair.2.written) ++ [[]]

/-- The lines of sections with raw texts. -/
def written : Table Entries → List Text
  | [] => []
  | named :: rest => writtenSection true named ++ rest.flatMap (writtenSection false)

theorem writtenSection_eq (first : Bool) (named : Text × Entries)
    : writtenSection first named = (sectionRows first named).map (Row.text KeyValue.raw) := by
  have entries : named.2.map (fun pair => pair.2.written)
      = (named.2.map fun pair => Row.entry pair.2).map (Row.text KeyValue.raw) := by
    rw [List.map_map]
    refine List.map_congr_left fun pair _ => ?_
    obtain ⟨name, entry⟩ := pair
    cases entry <;> rfl
  rw [writtenSection, entries, sectionRows, List.map_append, List.map_append]
  split <;> rfl

/-- The lines of sections with raw texts are their rows with raw texts. -/
theorem written_eq (sections : Table Entries)
    : written sections = (rows sections).map (Row.text KeyValue.raw) := by
  cases sections with
  | nil => rfl
  | cons named rest =>
      rw [written, rows, List.map_append, List.map_flatMap, writtenSection_eq]
      exact congrArg (_ ++ List.flatMap · rest) (funext fun pair => writtenSection_eq false pair)

/-- A document is written with raw texts, each line with the given end. -/
theorem text?_unexpanded (d : Document) (lineEnd : Text)
    : d.text? .unexpanded lineEnd = some ((written d.sections).flatMap (· ++ lineEnd)) := by
  rw [written_eq]
  refine text?_of_rows (fun _ _ pair _ => ?_) lineEnd
  obtain ⟨name, entry⟩ := pair
  cases entry <;> rfl

/-- What can be written of a section: its name and all its entries are legible. -/
def LegibleSection (named : Text × Entries) : Prop :=
  LegibleName named.1 ∧ ∀ pair ∈ named.2, pair.2.Legible

/-- No line of a legible section holds a line end. -/
theorem unbroken_writtenSection {named : Text × Entries} (legible : LegibleSection named)
    (first : Bool)
    : ∀ line ∈ writtenSection first named, Unbroken line := by
  intro line member
  unfold writtenSection at member
  rcases List.mem_append.mp member with inSection | isLast
  · rcases List.mem_append.mp inSection with isHeader | isEntry
    · split at isHeader
      · cases isHeader
      · obtain rfl := List.mem_singleton.mp isHeader
        exact legible.1.unbroken_headerLine
    · obtain ⟨pair, inEntries, rfl⟩ := List.mem_map.mp isEntry
      exact (legible.2 pair inEntries).unbroken
  · obtain rfl := List.mem_singleton.mp isLast
    exact fun c member => by cases member

/-- The lines of a legible section are read as its header, where there is one, its entries, and a
blank line.
-/
theorem map_ofText_writtenSection {named : Text × Entries} (legible : LegibleSection named)
    (first : Bool)
    : (writtenSection first named).map Line.ofText
      = (if first ∧ named.1 = noSection ∧ !named.2.isEmpty then [] else [.header named.1])
        ++ named.2.map (fun pair => pair.2.line) ++ [.blank] := by
  have entries : (named.2.map fun pair => pair.2.written).map Line.ofText
      = named.2.map fun pair => pair.2.line := by
    rw [List.map_map]
    exact List.map_congr_left fun pair member => (legible.2 pair member).read
  unfold writtenSection
  rw [List.map_append, List.map_append, entries]
  split
  · rfl
  · rw [List.map_singleton, List.map_singleton, Line.ofText_headerLine legible.1.1]
    rfl

/-- A key that is read in the lines of a legible section is one of the section. -/
theorem exists_of_read_keyValue {named : Text × Entries} (legible : LegibleSection named)
    {first : Bool} {key raw : Text}
    (member : .keyValue key raw ∈ (writtenSection first named).map Line.ofText)
    : ∃ pair ∈ named.2, ∃ kv, pair.2.keyValue? = some kv ∧ kv.raw = raw := by
  rw [map_ofText_writtenSection legible] at member
  rcases List.mem_append.mp member with inSection | isLast
  · rcases List.mem_append.mp inSection with isHeader | isEntry
    · split at isHeader
      · cases isHeader
      · cases List.mem_singleton.mp isHeader
    · obtain ⟨⟨name, entry⟩, inEntries, sameLine⟩ := List.mem_map.mp isEntry
      cases entry with
      | comment text => cases sameLine
      | keyValue kv =>
          cases sameLine
          exact ⟨_, inEntries, kv, rfl, rfl⟩
  · cases List.mem_singleton.mp isLast

end Document

end LiveIni
