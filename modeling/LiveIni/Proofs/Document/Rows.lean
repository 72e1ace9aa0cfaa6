import LiveIni.Document.Output

/-!
The rows of a document: its headers, its entries, and a blank row after each section. They are the
same in whatever form values are written, so that only the text of a row depends on it.
-/

namespace LiveIni

/-- What one line of a document is written for. -/
inductive Row where
  | header (name : Text)
  | entry (entry : Entry)
  | blank

/-- The text of a row, with values in a given form. -/
def Row.text (value : KeyValue → Text) : Row → Text
  | header name => Document.headerLine name
  | entry (.comment text) => text
  | entry (.keyValue kv) => Document.pairLine kv.key (value kv)
  | blank => []

namespace Document

/-- The rows of a section, which is the first one or not. -/
def sectionRows (first : Bool) (named : Text × Entries) : List Row :=
  (if first ∧ named.1 = noSection ∧ !named.2.isEmpty then [] else [.header named.1])
    ++ named.2.map (fun pair => .entry pair.2) ++ [.blank]

/-- The rows of sections. -/
def rows : Table Entries → List Row
  | [] => []
  | named :: rest => sectionRows true named ++ rest.flatMap (sectionRows false)

theorem exists_of_mem_rows {sections : Table Entries} {row : Row} (member : row ∈ rows sections)
    : ∃ first, ∃ named ∈ sections, row ∈ sectionRows first named := by
  cases sections with
  | nil => cases member
  | cons named rest =>
      rcases List.mem_append.mp member with inFirst | inOthers
      · exact ⟨true, named, List.mem_cons_self, inFirst⟩
      · obtain ⟨other, inRest, inOther⟩ := List.mem_flatMap.mp inOthers
        exact ⟨false, other, List.mem_cons_of_mem _ inRest, inOther⟩

/-- A row of sections is blank, or a header or an entry of one of them. -/
theorem row_cases {sections : Table Entries} {row : Row} (member : row ∈ rows sections)
    : row = .blank
      ∨ ∃ named ∈ sections, row = .header named.1 ∨ ∃ pair ∈ named.2, row = .entry pair.2 := by
  obtain ⟨first, named, inDocument, inSection⟩ := exists_of_mem_rows member
  rcases List.mem_append.mp inSection with content | isLast
  · refine .inr ⟨named, inDocument, ?_⟩
    rcases List.mem_append.mp content with isHeader | isEntry
    · split at isHeader
      · cases isHeader
      · exact .inl (List.mem_singleton.mp isHeader)
    · obtain ⟨pair, inEntries, isRow⟩ := List.mem_map.mp isEntry
      exact .inr ⟨pair, inEntries, isRow.symm⟩
  · exact .inl (List.mem_singleton.mp isLast)

/-- Every entry has a row. -/
theorem entry_mem_rows {sections : Table Entries} {named : Text × Entries}
    (inDocument : named ∈ sections) {pair : Text × Entry} (inSection : pair ∈ named.2)
    : .entry pair.2 ∈ rows sections := by
  have within (first : Bool) : .entry pair.2 ∈ sectionRows first named :=
    List.mem_append_left _ (List.mem_append_right _ (List.mem_map_of_mem inSection))
  cases inDocument with
  | head rest => exact List.mem_append_left _ (within true)
  | tail _ later =>
      exact List.mem_append_right _ (List.mem_flatMap.mpr ⟨named, later, within false⟩)

/-- In a list in which every item comes to something, all of them do, by induction on the list. -/
theorem mapM_eq_some_map {α β : Type} {f : α → Option β} {g : α → β} {items : List α}
    (each : ∀ a ∈ items, f a = some (g a))
    : items.mapM f = some (items.map g) := by
  induction items with
  | nil => rfl
  | cons item rest ih =>
      rw [List.mapM_cons, each item List.mem_cons_self,
        ih fun a member => each a (List.mem_cons_of_mem _ member)]
      rfl

variable {mode : OutputMode} {value : KeyValue → Text}

-----------------------------------------------------------------------------------------
-- Writing rows
-----------------------------------------------------------------------------------------

/-- What comes to lists of lines in two parts comes to the lines of the first and the second part. -/
theorem mapM_flatten_append {α β : Type} (f : α → Option (List β)) (first second : List α)
    : ((first ++ second).mapM f).map List.flatten
      = (first.mapM f).map List.flatten >>= fun lines =>
        ((second.mapM f).map List.flatten).map (lines ++ ·) := by
  rw [List.mapM_append]
  cases first.mapM f <;> cases second.mapM f <;> simp

end Document

/-- The lines of a row; none if a value is an integer too long to be written. -/
def Row.lines? (mode : OutputMode) : Row → Option (List Text)
  | header name => some [Document.headerLine name]
  | entry stored => Document.entryLines? mode stored
  | blank => some [[]]

namespace Document

theorem sectionLines?_eq_rows (first : Bool) (named : Text × Entries)
    : sectionLines? mode first named.1 named.2
      = ((sectionRows first named).mapM (Row.lines? mode)).map List.flatten := by
  have body : named.2.mapM (fun pair => entryLines? mode pair.2)
      = (named.2.map fun pair => Row.entry pair.2).mapM (Row.lines? mode) := by
    rw [List.mapM_map]
    rfl
  unfold sectionLines? sectionRows
  change named.2.mapM (fun pair => entryLines? mode pair.2) >>= _ = _
  rw [body, List.mapM_append, List.mapM_append]
  cases (named.2.map fun pair => Row.entry pair.2).mapM (Row.lines? mode) with
  | none => split <;> rfl
  | some lines => split <;> simp [Row.lines?]

/-- The sections after the first one are written row by row, by induction on the sections. -/
theorem mapM_sectionLines?_eq_rows (sections : Table Entries)
    : (sections.mapM fun named => sectionLines? mode false named.1 named.2).map List.flatten
      = ((sections.flatMap (sectionRows false)).mapM (Row.lines? mode)).map List.flatten := by
  induction sections with
  | nil => rfl
  | cons named rest ih =>
      rw [List.mapM_cons, List.flatMap_cons, mapM_flatten_append, ← ih, ← sectionLines?_eq_rows]
      cases sectionLines? mode false named.1 named.2 with
      | none => rfl
      | some lines =>
          cases rest.mapM fun named => sectionLines? mode false named.1 named.2 <;> rfl

/-- A document is written row by row. -/
theorem lines?_eq_rows (d : Document)
    : d.lines? mode = ((rows d.sections).mapM (Row.lines? mode)).map List.flatten := by
  unfold lines? rows
  cases d.sections with
  | nil => rfl
  | cons named rest =>
      dsimp only
      rw [mapM_flatten_append, ← mapM_sectionLines?_eq_rows, ← sectionLines?_eq_rows]
      cases sectionLines? mode true named.1 named.2 with
      | none => rfl
      | some lines =>
          change Option.bind _ _ = _
          cases rest.mapM fun named => sectionLines? mode false named.1 named.2 <;> rfl

/-- The entry is written as one line, with its value in a given form. -/
def WrittenAs (mode : OutputMode) (value : KeyValue → Text) (entry : Entry) : Prop :=
  entryLines? mode entry = some [(Row.entry entry).text value]

/-- A document is written as its rows, each with the given end, if all its entries are written as
one line.
-/
theorem text?_of_rows {d : Document}
    (each : ∀ named ∈ d.sections, ∀ pair ∈ named.2, WrittenAs mode value pair.2)
    (lineEnd : Text)
    : d.text? mode lineEnd
      = some (((rows d.sections).map (Row.text value)).flatMap (· ++ lineEnd)) := by
  have written : ∀ row ∈ rows d.sections, row.lines? mode = some [row.text value] := by
    intro row member
    rcases row_cases member with rfl | ⟨named, inDocument, rfl | ⟨pair, inSection, rfl⟩⟩
    · rfl
    · rfl
    · exact each named inDocument pair inSection
  rw [text?, lines?_eq_rows, mapM_eq_some_map written, Option.map_some, Option.map_some,
    ← List.flatMap_def, ← List.map_eq_flatMap]

end Document

end LiveIni
