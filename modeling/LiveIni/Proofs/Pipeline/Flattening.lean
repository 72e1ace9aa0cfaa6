import LiveIni.Proofs.Document.Flattening
import LiveIni.Proofs.Pipeline.Accounting

/-!
The plain tables of a document that has been read. They keep every comment and every key, but a key
that is another key with the suffix of raw texts may have lost its place to the raw text of the other
one.
-/

namespace LiveIni

/-- In the document of a text, comments stand under made-up names. -/
theorem Document.IsOf.madeUp {d : Document} {text : Text} {readings : Text → Reading}
    (isOf : d.IsOf text readings) (name : Text)
    : (Sections.entriesOf d.sections name).MadeUp := by
  rw [isOf, Sections.entriesOf_foldl_storeLine]
  exact Entries.madeUp_ofList _

namespace Pipeline

variable {p : Pipeline} {scope : Scope} {expand : Bool} {text : Text} {d : Document}

/-- The plain tables of a parsed document have its sections in their order, and each is the view of
its section: without raw texts it keeps every comment and every typed value, and with them all that no
companion replaces, which takes two keys, the one with the suffix before the one without.
Witness: names are distinct and comments stand under made-up names, which are no companions.
-/
theorem parse_flatten (parsed : p.ParsesTo scope expand text d) (withRaw : Bool)
    : (d.flatten withRaw).names = d.sections.names
      ∧ ∀ name entries, d.sections.get? name = some entries
        → ∃ flat, (d.flatten withRaw).get? name = some flat
          ∧ Document.IsViewOf withRaw flat entries := by
  have flattened : d.flatten withRaw = d.sections.mapValues (Document.flattenEntries withRaw) := rfl
  rw [flattened, Table.names_mapValues]
  refine ⟨rfl, fun name entries found => ⟨Document.flattenEntries withRaw entries, ?_, ?_⟩⟩
  · rw [Table.get?_mapValues, found]
    rfl
  · have isOf := parsed.isOf.1
    have same : Sections.entriesOf d.sections name = entries := by
      rw [Sections.entriesOf, found]
      rfl
    rw [← same]
    exact Document.isViewOf_flattenEntries (isOf.records name).distinct (isOf.madeUp name) withRaw

/-- The entries of a note and two keys, of which the second is the first with the suffix of raw texts.
-/
def suffixedEntries : Entries := [
  ("Comment1".toList, .comment "; note".toList),
  ("a".toList, .keyValue ⟨"a".toList, "1".toList, .integer .int32 1⟩),
  ("aunexpanded".toList, .keyValue ⟨"aunexpanded".toList, "2".toList, .integer .int32 2⟩)]

/-- The key with the suffix stands after the one without and keeps its value. -/
theorem parse_flatten_suffixedEntries
    : let d : Document := { sections := [(Document.noSection, suffixedEntries)] }
      ({} : Pipeline).ParsesTo {} false "; note\na=1\naunexpanded=2".toList d
        ∧ ∃ flat, (d.flatten true).get? Document.noSection = some flat
          ∧ flat.get? "Comment1".toList = some (.text "; note".toList)
          ∧ flat.get? "aunexpanded".toList = some (.int 2) := by
  intro d
  have parsed : ({} : Pipeline).ParsesTo {} false "; note\na=1\naunexpanded=2".toList d :=
    parsesTo_of_toOption (by decide +kernel)
  have distinct : (Table.names suffixedEntries).Nodup := by decide +kernel
  have later : suffixedEntries.Precedes "a".toList "aunexpanded".toList :=
    ⟨[_], _, [_], rfl, by decide⟩
  obtain ⟨flat, found, view⟩ := (parse_flatten parsed true).2 Document.noSection _ rfl
  have note : suffixedEntries.get? "Comment1".toList = some (.comment "; note".toList) := by
    decide +kernel
  have key : suffixedEntries.get? "aunexpanded".toList
      = some (.keyValue ⟨"aunexpanded".toList, "2".toList, .integer .int32 2⟩) := by
    decide +kernel
  have last : flat.get? "aunexpanded".toList = some (.int 2) := by
    refine view.value key ?_
    rintro _ other ⟨same, _, earlier⟩
    obtain rfl : "a".toList = other := Document.companion_injective same
    exact Document.precedes_asymm distinct later earlier
  exact ⟨parsed, flat, found, view.comment note, last⟩

/-- In the other order the key with the suffix loses its value to the raw text of the one without. -/
theorem parse_flatten_replaces
    : ∃ d, ({} : Pipeline).ParsesTo {} false "aunexpanded=2\na=1".toList d
      ∧ d.valueOr Document.noSection "aunexpanded".toList .null = .int 2
      ∧ ((d.flatten true).get? Document.noSection).bind (Table.get? "aunexpanded".toList)
        = some (.text "1".toList) := by
  refine ⟨⟨[(Document.noSection, [
    ("aunexpanded".toList, .keyValue ⟨"aunexpanded".toList, "2".toList, .integer .int32 2⟩),
    ("a".toList, .keyValue ⟨"a".toList, "1".toList, .integer .int32 1⟩)])], []⟩, ?_, ?_, ?_⟩
  · exact parsesTo_of_toOption (by decide +kernel)
  · decide +kernel
  · decide +kernel

end Pipeline

end LiveIni
