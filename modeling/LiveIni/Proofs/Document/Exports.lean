import LiveIni.Proofs.Document.Rows
import LiveIni.Proofs.Inference.Forms
import LiveIni.Proofs.Text.Breaks
import Mathlib.Data.List.Forall2

/-!
Texts of equal documents. Their rows are the same but for the forms of decimals, so that they are
written in the same way with raw texts; with what values stand for they are so exactly if every two
decimals in the same row have as many places after the point.
-/

namespace LiveIni

open Number

/-- A text without line ends is the first line of what begins with it and a line end. -/
theorem Text.eq_of_append_lineEnd {s t u v lineEnd : Text} (isEnd : lineEnd ∈ lineEnds)
    (unbroken : Unbroken s) (unbroken' : Unbroken t)
    (same : s ++ (lineEnd ++ u) = t ++ (lineEnd ++ v))
    : s = t := by
  let inLine (c : Char) : Bool := c ≠ '\n' && c ≠ '\r'
  have firstLine {s : Text} (unbroken : Unbroken s) (rest : Text)
      : (s ++ (lineEnd ++ rest)).takeWhile inLine = s := by
    have within : ∀ c ∈ s, inLine c = true := fun c member => by simp [inLine, unbroken c member]
    have ended : (lineEnd ++ rest).takeWhile inLine = [] := by
      simp only [lineEnds, List.mem_cons, List.not_mem_nil, or_false] at isEnd
      rcases isEnd with rfl | rfl | rfl <;> rfl
    rw [List.takeWhile_append_of_pos within, ended, List.append_nil]
  rw [← firstLine unbroken u, same, firstLine unbroken' v]

theorem Number.Decimal.unbroken_positional (d : Decimal) : Text.Unbroken d.positional := by
  obtain ⟨whole, fraction, writes⟩ := d.exists_writesPositional
  intro c member
  rw [writes.text] at member
  rcases writes.toPositionalDigits.mem d.negative member with digit | rfl | rfl
  · constructor <;> rintro rfl <;> cases digit
  · decide
  · decide

namespace Row

/-- The number of places after the point, if the row is that of a decimal. -/
def places : Row → Nat
  | entry (.keyValue kv) => kv.typed.places
  | _ => 0

/-- The rows are the same, but for the form of a value. -/
inductive Alike : Row → Row → Prop
  | header (name : Text) : Alike (header name) (header name)
  | comment (text : Text) : Alike (entry (.comment text)) (entry (.comment text))
  | keyValue (key raw : Text) {v w : TypedValue} (regular : v.IsRegular) (regular' : w.IsRegular)
      (same : v.same w = true)
    : Alike (entry (.keyValue ⟨key, raw, v⟩)) (entry (.keyValue ⟨key, raw, w⟩))
  | blank : Alike blank blank

namespace Alike

variable {r s : Row} {mode : OutputMode}

/-- With raw texts, rows that are alike are written in the same way. -/
theorem lines?_unexpanded (alike : r.Alike s) : r.lines? .unexpanded = s.lines? .unexpanded := by
  cases alike <;> rfl

/-- With values, rows that are alike are written in the same way if they have as many places. -/
theorem lines?_eq_of_places (alike : r.Alike s) (places : r.places = s.places)
    : r.lines? mode = s.lines? mode := by
  cases alike with
  | header => rfl
  | comment => rfl
  | blank => rfl
  | keyValue key raw regular regular' same =>
      have rendered := (regular.render?_eq_iff regular' same).mpr places
      simp only [lines?, Document.entryLines?, rendered]

/-- With its value, a row of a decimal begins with the text of the decimal, and all else that is
written does not depend on it.
-/
theorem exists_lines?_decimal (valued : mode ≠ .unexpanded) (key raw : Text)
    : ∃ more, ∀ d : Decimal,
        (entry (.keyValue ⟨key, raw, .decimal d⟩)).lines? mode
          = some (Document.pairLine key d.positional :: more) := by
  cases mode with
  | unexpanded => exact absurd rfl valued
  | expanded => exact ⟨[], fun _ => rfl⟩
  | all => exact ⟨[Document.pairLine (key ++ Document.rawSuffix) raw], fun _ => rfl⟩

/-- Rows that are alike have as many places if they are written in the same way, and what is written
after them is the same, too.
-/
theorem of_text_eq {rest rest' lineEnd : Text} {written written' : List Text}
    (alike : r.Alike s) (valued : mode ≠ .unexpanded) (isEnd : lineEnd ∈ Text.lineEnds)
    (writes : r.lines? mode = some written) (writes' : s.lines? mode = some written')
    (same : written.flatMap (· ++ lineEnd) ++ rest = written'.flatMap (· ++ lineEnd) ++ rest')
    : r.places = s.places ∧ rest = rest' := by
  have of_eq (equal : r = s) : r.places = s.places ∧ rest = rest' := by
    subst equal
    cases writes.symm.trans writes'
    exact ⟨rfl, List.append_cancel_left same⟩
  cases alike with
  | header => exact of_eq rfl
  | comment => exact of_eq rfl
  | blank => exact of_eq rfl
  | keyValue key raw regular regular' equal =>
      rcases regular.cases_of_same regular' equal with rfl | ⟨a, b, rfl, rfl, number⟩
      · exact of_eq rfl
      · obtain ⟨more, lines⟩ := exists_lines?_decimal valued key raw
        cases writes.symm.trans (lines a)
        cases writes'.symm.trans (lines b)
        simp only [List.flatMap_cons, Document.pairLine, List.append_assoc, List.cons_append]
          at same
        have values := List.cons.inj (List.append_cancel_left same)
        have texts := Text.eq_of_append_lineEnd isEnd a.unbroken_positional
          b.unbroken_positional values.2
        rw [texts] at values
        have after := List.append_cancel_left (List.append_cancel_left values.2)
        exact ⟨(Decimal.positional_eq_iff regular regular' number).mp texts,
          List.append_cancel_left after⟩

end Alike

end Row

-----------------------------------------------------------------------------------------
-- Rows of equal documents
-----------------------------------------------------------------------------------------

/-- The value of the entry is regular, if it has one. -/
def Entry.IsRegular (entry : Entry) : Prop :=
  ∀ kv, entry.keyValue? = some kv → kv.typed.IsRegular

/-- The value of the entry can be written, if it has one. -/
def Entry.IsWritable (entry : Entry) : Prop :=
  ∀ kv, entry.keyValue? = some kv → kv.typed.render?.isSome

theorem Entry.IsWritable.exists_lines? {entry : Entry} (writable : entry.IsWritable)
    (mode : OutputMode)
    : ∃ lines, Document.entryLines? mode entry = some lines := by
  cases entry with
  | comment text => exact ⟨_, rfl⟩
  | keyValue kv =>
      obtain ⟨value, rendered⟩ := Option.isSome_iff_exists.mp (writable kv rfl)
      cases mode with
      | unexpanded => exact ⟨_, rfl⟩
      | expanded | all =>
          simp only [Document.entryLines?, rendered]
          exact ⟨_, rfl⟩

theorem Entry.alike_of_same {a b : Entry} (regular : a.IsRegular) (regular' : b.IsRegular)
    (same : a.same b = true)
    : (Row.entry a).Alike (.entry b) := by
  cases a with
  | comment text =>
      cases b with
      | comment text' =>
          cases of_decide_eq_true same
          exact .comment text
      | keyValue kv => cases same
  | keyValue kv =>
      cases b with
      | comment text => cases same
      | keyValue kv' =>
          obtain ⟨key, raw, v⟩ := kv
          obtain ⟨key', raw', w⟩ := kv'
          simp only [Entry.same, Bool.and_eq_true, decide_eq_true_eq] at same
          obtain ⟨⟨rfl, rfl⟩, equal⟩ := same
          exact .keyValue key raw (regular _ rfl) (regular' _ rfl) equal

def Entries.IsRegular (entries : Entries) : Prop :=
  ∀ pair ∈ entries, pair.2.IsRegular

/-- Equal entries have rows that are alike, by induction on the entries. -/
theorem Entries.alike_of_same {entries others : Entries} (regular : entries.IsRegular)
    (regular' : others.IsRegular) (same : entries.same others = true)
    : List.Forall₂ Row.Alike (entries.map fun pair => .entry pair.2)
        (others.map fun pair => .entry pair.2) := by
  induction entries generalizing others with
  | nil =>
      cases others with
      | nil => exact .nil
      | cons => cases same
  | cons pair rest ih =>
      cases others with
      | nil => cases same
      | cons pair' rest' =>
          simp only [Entries.same, Bool.and_eq_true, decide_eq_true_eq] at same
          obtain ⟨first, more⟩ := List.forall_mem_cons.mp regular
          obtain ⟨first', more'⟩ := List.forall_mem_cons.mp regular'
          exact .cons (Entry.alike_of_same first first' same.1.2) (ih more more' same.2)

namespace Document

/-- All values of the document are regular. -/
def IsRegular (d : Document) : Prop :=
  ∀ named ∈ d.sections, Entries.IsRegular named.2

/-- The numbers of places after the point, row by row. -/
def places (d : Document) : List Nat :=
  (rows d.sections).map Row.places

/-- Two sections with one name, and with equal entries whose values are regular. -/
structure SameSection (named other : Text × Entries) : Prop where
  name : named.1 = other.1
  regular : named.2.IsRegular
  regular' : other.2.IsRegular
  same : named.2.same other.2 = true

/-- Equal sections are equal one by one, by induction on them. -/
theorem sections_of_same {sections others : Table Entries}
    (regular : ∀ named ∈ sections, Entries.IsRegular named.2)
    (regular' : ∀ named ∈ others, Entries.IsRegular named.2)
    (same : sameSections sections others = true)
    : List.Forall₂ SameSection sections others := by
  induction sections generalizing others with
  | nil =>
      cases others with
      | nil => exact .nil
      | cons => cases same
  | cons named rest ih =>
      cases others with
      | nil => cases same
      | cons named' rest' =>
          simp only [sameSections, Bool.and_eq_true, decide_eq_true_eq] at same
          obtain ⟨first, more⟩ := List.forall_mem_cons.mp regular
          obtain ⟨first', more'⟩ := List.forall_mem_cons.mp regular'
          exact .cons ⟨same.1.1, first, first', same.1.2⟩ (ih more more' same.2)

theorem SameSection.rows_alike {named other : Text × Entries} (same : SameSection named other)
    (first : Bool)
    : List.Forall₂ Row.Alike (sectionRows first named) (sectionRows first other) := by
  obtain ⟨name, regular, regular', entries⟩ := same
  have empty : named.2.isEmpty = other.2.isEmpty := by
    cases left : named.2 <;> cases right : other.2 <;> rw [left, right] at entries <;>
      first | rfl | cases entries
  have header : List.Forall₂ Row.Alike [.header named.1] [.header other.1] :=
    name ▸ .cons (.header named.1) .nil
  refine List.rel_append (List.rel_append ?_ (Entries.alike_of_same regular regular' entries))
    (.cons .blank .nil)
  rw [name, empty]
  split
  · exact .nil
  · exact name ▸ header

/-- Equal documents with regular values have rows that are alike. -/
theorem rows_alike {d e : Document} (regular : d.IsRegular) (regular' : e.IsRegular)
    (same : d.same e = true)
    : List.Forall₂ Row.Alike (rows d.sections) (rows e.sections) := by
  have sections := sections_of_same regular regular' same
  generalize d.sections = left at sections
  generalize e.sections = right at sections
  cases sections with
  | nil => exact .nil
  | cons first rest =>
      exact List.rel_append (first.rows_alike true)
        (List.rel_flatMap rest fun _ _ same => same.rows_alike false)

-----------------------------------------------------------------------------------------
-- Documents that can be written
-----------------------------------------------------------------------------------------

/-- All values of the document can be written. -/
def IsWritable (d : Document) : Prop :=
  ∀ named ∈ d.sections, ∀ pair ∈ named.2, Entry.IsWritable pair.2

/-- A document whose values can all be written has a text in every form. -/
theorem IsWritable.exists_text? {d : Document} (writable : d.IsWritable) (mode : OutputMode)
    (lineEnd : Text)
    : ∃ t, d.text? mode lineEnd = some t := by
  have written : ∀ row ∈ rows d.sections,
      row.lines? mode = some ((row.lines? mode).getD []) := by
    intro row member
    rcases row_cases member with rfl | ⟨named, inDocument, rfl | ⟨pair, inSection, rfl⟩⟩
    · rfl
    · rfl
    · obtain ⟨lines, found⟩ := (writable named inDocument pair inSection).exists_lines? mode
      rw [Row.lines?, found]
      rfl
  rw [text?, lines?_eq_rows, mapM_eq_some_map written]
  exact ⟨_, rfl⟩

-----------------------------------------------------------------------------------------
-- Texts of equal documents
-----------------------------------------------------------------------------------------

variable {mode : OutputMode}

/-- Rows that are written in the same way one by one are written in the same way together, by
induction on the rows.
-/
theorem mapM_lines?_congr {left right : List Row}
    (each : List.Forall₂ (fun r s => r.lines? mode = s.lines? mode) left right)
    : left.mapM (Row.lines? mode) = right.mapM (Row.lines? mode) := by
  induction each with
  | nil => rfl
  | cons first _ ih => rw [List.mapM_cons, List.mapM_cons, first, ih]

/-- Rows that are alike and have as many places are written in the same way, by induction on them. -/
theorem lines?_of_places {left right : List Row} (alike : List.Forall₂ Row.Alike left right)
    (places : left.map Row.places = right.map Row.places)
    : List.Forall₂ (fun r s => r.lines? mode = s.lines? mode) left right := by
  induction alike with
  | nil => exact .nil
  | cons first _ ih =>
      obtain ⟨here, after⟩ := List.cons.inj places
      exact .cons (first.lines?_eq_of_places here) (ih after)

/-- Rows that are alike have as many places one by one if they are written in the same way together,
by induction on the rows.
-/
theorem places_of_text_eq {left right : List Row} {written written' : List (List Text)}
    {lineEnd : Text} (alike : List.Forall₂ Row.Alike left right) (valued : mode ≠ .unexpanded)
    (isEnd : lineEnd ∈ Text.lineEnds) (writes : left.mapM (Row.lines? mode) = some written)
    (writes' : right.mapM (Row.lines? mode) = some written')
    (same : written.flatten.flatMap (· ++ lineEnd) = written'.flatten.flatMap (· ++ lineEnd))
    : left.map Row.places = right.map Row.places := by
  induction alike generalizing written written' with
  | nil => rfl
  | cons first _ ih =>
      rw [List.mapM_cons] at writes writes'
      obtain ⟨lines, row, others⟩ := Option.bind_eq_some_iff.mp writes
      obtain ⟨lines', row', others'⟩ := Option.bind_eq_some_iff.mp writes'
      obtain ⟨more, rest, joined⟩ := Option.bind_eq_some_iff.mp others
      obtain ⟨more', rest', joined'⟩ := Option.bind_eq_some_iff.mp others'
      cases joined
      cases joined'
      rw [List.flatten_cons, List.flatten_cons, List.flatMap_append, List.flatMap_append] at same
      obtain ⟨places, after⟩ := first.of_text_eq valued isEnd row row' same
      rw [List.map_cons, List.map_cons, places, ih rest rest' after]

variable {d e : Document} (regular : d.IsRegular) (regular' : e.IsRegular)
  (same : d.same e = true)
include regular regular' same

/-- Equal documents are written in the same way with raw texts. -/
theorem text?_unexpanded_of_same (lineEnd : Text)
    : d.text? .unexpanded lineEnd = e.text? .unexpanded lineEnd := by
  have rows := (rows_alike regular regular' same).imp fun _ _ alike => alike.lines?_unexpanded
  rw [text?, text?, lines?_eq_rows, lines?_eq_rows, mapM_lines?_congr rows]

/-- Equal documents are written in the same way with values if these have as many places. -/
theorem text?_of_places (places : d.places = e.places) (lineEnd : Text)
    : d.text? mode lineEnd = e.text? mode lineEnd := by
  rw [text?, text?, lines?_eq_rows, lines?_eq_rows,
    mapM_lines?_congr (lines?_of_places (rows_alike regular regular' same) places)]

/-- Equal documents that are written in the same way with values have as many places. -/
theorem places_of_text? (valued : mode ≠ .unexpanded) {lineEnd t : Text}
    (isEnd : lineEnd ∈ Text.lineEnds) (written : d.text? mode lineEnd = some t)
    (written' : e.text? mode lineEnd = some t)
    : d.places = e.places := by
  rw [text?, lines?_eq_rows] at written written'
  obtain ⟨_, left, rfl⟩ := Option.map_eq_some_iff.mp written
  obtain ⟨_, right, texts⟩ := Option.map_eq_some_iff.mp written'
  obtain ⟨_, writes, rfl⟩ := Option.map_eq_some_iff.mp left
  obtain ⟨_, writes', rfl⟩ := Option.map_eq_some_iff.mp right
  exact places_of_text_eq (rows_alike regular regular' same) valued isEnd writes writes' texts.symm

end Document

end LiveIni
