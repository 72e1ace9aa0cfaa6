import LiveIni.Proofs.Document.Additions
import LiveIni.Proofs.Text.Visible
import Mathlib.Algebra.Order.BigOperators.Group.List
import Mathlib.Algebra.Order.Group.Nat
import Mathlib.Data.List.Basic

/-!
The marks of texts, which say what their lines are without saying which values they have. A value
leaves the mark of its key alone if it is confined to the line of the key and does not close a
bracket that the key opens.
-/

namespace LiveIni

/-- Two ways to replace every item of a list by at least as many others as in the second way come to
the same only if they do so item by item, by induction on the list.
-/
theorem flatMap_eq_flatMap_iff {α β : Type} {items : List α} {f g : α → List β}
    (fewer : ∀ a ∈ items, (g a).length ≤ (f a).length)
    : items.flatMap f = items.flatMap g ↔ ∀ a ∈ items, f a = g a := by
  constructor
  · intro same
    induction items with
    | nil => exact fun _ member => by cases member
    | cons item rest ih =>
        have within : ∀ a ∈ rest, (g a).length ≤ (f a).length := fun a member =>
          fewer a (List.mem_cons_of_mem _ member)
        have others : (rest.flatMap g).length ≤ (rest.flatMap f).length := by
          rw [List.length_flatMap, List.length_flatMap]
          exact List.sum_le_sum within
        have first := fewer item List.mem_cons_self
        rw [List.flatMap_cons, List.flatMap_cons] at same
        have lengths := congrArg List.length same
        rw [List.length_append, List.length_append] at lengths
        obtain ⟨head, tail⟩ := List.append_inj same (by omega)
        intro a member
        rcases List.mem_cons.mp member with rfl | later
        · exact head
        · exact ih within tail a later
  · exact List.flatMap_congr

-----------------------------------------------------------------------------------------
-- The marks of a text
-----------------------------------------------------------------------------------------

namespace Line

theorem mark?_ofText_eq_none_iff {t : Text}
    : (ofText t).mark? = none ↔ Text.isBlankLine t = true := by
  have read := readAs_ofText t
  generalize ofText t = line at read ⊢
  cases read with
  | blank isBlank => exact iff_of_true rfl isBlank
  | header visible _ | comment visible _ | keyValue visible _ _ | malformed visible =>
      exact iff_of_false (Option.some_ne_none _) (Bool.eq_false_iff.mp visible)

end Line

namespace Text

/-- The marks of lines in their order. -/
def marksOf (ls : List Text) : List Mark :=
  ls.filterMap fun line => (Line.ofText line).mark?

/-- The marks of a text. -/
def marks (t : Text) : List Mark :=
  marksOf (lines t)

theorem marksOf_visible (ls : List Text) : marksOf (visible ls) = marksOf ls := by
  rw [marksOf, visible, List.filterMap_filter]
  refine List.filterMap_congr fun line _ => ?_
  cases blank : isBlankLine line with
  | true => exact (Line.mark?_ofText_eq_none_iff.mpr blank).symm
  | false => rfl

theorem marksOf_eq_nil_iff {ls : List Text}
    : marksOf ls = [] ↔ ∀ line ∈ ls, isBlankLine line = true := by
  rw [marksOf, List.filterMap_eq_nil_iff]
  exact forall₂_congr fun line _ => Line.mark?_ofText_eq_none_iff

/-- The marks of texts that are each ended in the same way are those of each of them in order. -/
theorem marks_flatMap {lineEnd : Text} (isEnd : lineEnd ∈ lineEnds) {ts : List Text}
    (noFeed : ∀ t ∈ ts, t.head? ≠ some '\n')
    : marks (ts.flatMap (· ++ lineEnd)) = ts.flatMap marks := by
  have each : marks = fun t => marksOf (visibleLines t) :=
    funext fun t => (marksOf_visible (lines t)).symm
  have whole := visibleLines_flatMap isEnd noFeed
  rw [each]
  dsimp only
  rw [whole, marksOf, List.filterMap_flatMap]
  rfl

/-- A line has at most one mark. -/
theorem marks_of_unbroken {t : Text} (unbroken : Unbroken t)
    : marks t = (Line.ofText t).mark?.toList := by
  have single := lines_append_of_unbroken unbroken []
  have alone : lines t = [t] := by
    rw [List.append_nil] at single
    exact single.trans (congrArg (· :: []) (List.append_nil t))
  rw [marks, alone, marksOf, List.filterMap_cons]
  cases (Line.ofText t).mark? <;> rfl

end Text

-----------------------------------------------------------------------------------------
-- Values beside their keys
-----------------------------------------------------------------------------------------

open Text

namespace Line

instance (t : Text) : Decidable (Closes t) :=
  decidable_of_iff (((Text.cutAtLast? ']' t).any fun parts => isBlankLine parts.2) = true) (by
    rw [Option.any_eq_true]
    constructor
    · rintro ⟨⟨before, after⟩, cut, blank⟩
      exact ⟨before, after, (cutAtLast?_eq_some_iff.mp cut).1, blank⟩
    · rintro ⟨before, after, rfl, blank⟩
      refine ⟨(before, after), cutAtLast?_eq_some_iff.mpr ⟨rfl, fun member => ?_⟩, blank⟩
      exact absurd (List.all_eq_true.mp blank ']' member) (by decide))

end Line

/-- Beside its key the value is nothing but a value: what it has after its first line is blank, and
it does not close a bracket that the key opens.
-/
structure Confined (key value : Text) : Prop where
  later : ∀ line ∈ laterLines value, isBlankLine line = true
  opened : ¬(key.head? = some '[' ∧ Line.Closes (firstLine value))

instance (key value : Text) : Decidable (Confined key value) :=
  decidable_of_iff
    ((∀ line ∈ laterLines value, isBlankLine line = true)
      ∧ ¬(key.head? = some '[' ∧ Line.Closes (firstLine value)))
    ⟨fun confined => ⟨confined.1, confined.2⟩, fun confined => ⟨confined.1, confined.2⟩⟩

variable {key : Text}

/-- Beside a key, the first line of a value has a mark, and all others have theirs. -/
theorem marks_pairLine (isKey : Line.IsKey key) (unbroken : Unbroken key) (value : Text)
    : marks (Document.pairLine key value)
      = (match Line.headerName? (Document.pairLine key (firstLine value)) with
          | some name => .header name
          | none => .key key)
        :: marksOf (laterLines value) := by
  have unbrokenSign : Unbroken (key ++ ['=']) := by
    intro c member
    rcases List.mem_append.mp member with inKey | isSign
    · exact unbroken c inKey
    · rw [List.mem_singleton.mp isSign]
      decide
  have cut : lines (Document.pairLine key value)
      = Document.pairLine key (firstLine value) :: laterLines value := by
    have cut := lines_append_of_unbroken unbrokenSign value
    rwa [List.append_assoc, List.append_assoc] at cut
  rw [marks, cut, marksOf, List.filterMap_cons, Line.ofText_pairLine_of_isKey isKey]
  cases Line.headerName? (Document.pairLine key (firstLine value)) <;> rfl

/-- A value leaves the mark of its key alone exactly if it is confined. -/
theorem marks_pairLine_eq_iff (isKey : Line.IsKey key) (unbroken : Unbroken key) (value : Text)
    : marks (Document.pairLine key value) = [.key key] ↔ Confined key value := by
  have header := Line.exists_headerName?_pairLine_iff isKey (firstLine value)
  rw [marks_pairLine isKey unbroken, List.cons.injEq, marksOf_eq_nil_iff]
  constructor
  · rintro ⟨mark, later⟩
    refine ⟨later, fun closes => ?_⟩
    obtain ⟨name, isHeader⟩ := header.mpr closes
    rw [isHeader] at mark
    cases mark
  · rintro ⟨later, opened⟩
    refine ⟨?_, later⟩
    cases isHeader : Line.headerName? (Document.pairLine key (firstLine value)) with
    | some name => exact absurd (header.mp ⟨name, isHeader⟩) opened
    | none => rfl

-----------------------------------------------------------------------------------------
-- The marks of rows
-----------------------------------------------------------------------------------------

namespace Row

/-- The mark of a row; a blank one has none. -/
def mark? : Row → Option Mark
  | header name => some (.header name)
  | entry e => some e.mark
  | blank => none

/-- With its raw text the row is written as a line that is read as the row. -/
def Legible : Row → Prop
  | header name => Document.LegibleName name
  | entry e => e.Legible
  | blank => True

/-- If the row has a key, its value in a given form is confined to it. -/
def Confined (value : KeyValue → Text) : Row → Prop
  | entry (.keyValue kv) => LiveIni.Confined kv.key (value kv)
  | _ => True

variable {row : Row}

theorem Legible.isKey {kv : KeyValue} (legible : Legible (.entry (.keyValue kv)))
    : Line.IsKey kv.key ∧ Unbroken kv.key := by
  have read : Line.ofText (Document.pairLine kv.key kv.raw) = .keyValue kv.key kv.raw :=
    Entry.Legible.read legible
  have unbroken : Unbroken (Document.pairLine kv.key kv.raw) := Entry.Legible.unbroken legible
  exact ⟨(Line.key_of_keyAndRaw? (Line.keyAndRaw?_of_ofText read).2).1,
    unbroken.of_subset (List.subset_append_left kv.key _)⟩

/-- A row with its raw text has its own mark. -/
theorem Legible.marks_raw (legible : row.Legible)
    : marks (row.text KeyValue.raw) = row.mark?.toList := by
  cases row with
  | header name =>
      rw [text, marks_of_unbroken (Document.LegibleName.unbroken_headerLine legible),
        Line.ofText_headerLine legible.1]
      rfl
  | entry e =>
      have written : (entry e).text KeyValue.raw = e.written := by cases e <;> rfl
      rw [written, marks_of_unbroken (Entry.Legible.unbroken legible), Entry.Legible.read legible,
        e.mark?_line]
      rfl
  | blank => rfl

/-- A row begins with no line end, whatever value it has. -/
theorem Legible.head?_text (legible : row.Legible) (value : KeyValue → Text)
    : (row.text value).head? ≠ some '\n' := by
  cases row with
  | header name => exact fun feed => absurd (Option.some.inj feed) (by decide)
  | blank => exact fun feed => by cases feed
  | entry e =>
      cases e with
      | comment comment =>
          intro feed
          exact (Entry.Legible.unbroken legible '\n' (List.mem_of_mem_head? feed)).1 rfl
      | keyValue kv =>
          obtain ⟨isKey, unbroken⟩ := legible.isKey
          obtain ⟨c, more, begins, _⟩ := isKey.begins
          have noEnd := unbroken c (begins ▸ List.mem_cons_self)
          rw [text, Document.pairLine, begins]
          exact fun feed => noEnd.1 (Option.some.inj feed)

/-- A row has its own mark and no other exactly if its value is confined to it, and it never has
fewer marks than that.
-/
theorem Legible.marks_eq_iff (legible : row.Legible) (value : KeyValue → Text)
    : (marks (row.text value) = row.mark?.toList ↔ row.Confined value)
      ∧ row.mark?.toList.length ≤ (marks (row.text value)).length := by
  have fixed (same : row.text value = row.text KeyValue.raw) (confined : row.Confined value)
      : (marks (row.text value) = row.mark?.toList ↔ row.Confined value)
        ∧ row.mark?.toList.length ≤ (marks (row.text value)).length := by
    rw [same, legible.marks_raw]
    exact ⟨iff_of_true rfl confined, le_rfl⟩
  cases row with
  | header name => exact fixed rfl trivial
  | blank => exact fixed rfl trivial
  | entry e =>
      cases e with
      | comment comment => exact fixed rfl trivial
      | keyValue kv =>
          obtain ⟨isKey, unbroken⟩ := legible.isKey
          refine ⟨marks_pairLine_eq_iff isKey unbroken (value kv), ?_⟩
          rw [text, marks_pairLine isKey unbroken]
          exact Nat.succ_le_succ (Nat.zero_le _)

section Written

variable {lineEnd : Text} (isEnd : lineEnd ∈ lineEnds) {rows : List Row}
  (legible : ∀ row ∈ rows, row.Legible)

include isEnd legible

theorem marks_rows (value : KeyValue → Text)
    : marks ((rows.map (Row.text value)).flatMap (· ++ lineEnd))
      = rows.flatMap fun row => marks (row.text value) := by
  rw [marks_flatMap isEnd, List.flatMap_map]
  intro t member
  obtain ⟨row, inRows, rfl⟩ := List.mem_map.mp member
  exact (legible row inRows).head?_text value

/-- Rows that are written with raw texts have their own marks. -/
theorem marks_rows_raw
    : marks ((rows.map (Row.text KeyValue.raw)).flatMap (· ++ lineEnd))
      = rows.filterMap mark? := by
  rw [marks_rows isEnd legible, List.filterMap_eq_flatMap_toList]
  exact List.flatMap_congr fun row member => (legible row member).marks_raw

/-- Rows that are written in another form have their own marks exactly if all values are confined to
their rows.
-/
theorem marks_rows_eq_iff (value : KeyValue → Text)
    : marks ((rows.map (Row.text value)).flatMap (· ++ lineEnd)) = rows.filterMap mark?
      ↔ ∀ row ∈ rows, row.Confined value := by
  rw [marks_rows isEnd legible, List.filterMap_eq_flatMap_toList,
    flatMap_eq_flatMap_iff fun row member => ((legible row member).marks_eq_iff value).2]
  exact forall₂_congr fun row member => ((legible row member).marks_eq_iff value).1

end Written

end Row

end LiveIni
