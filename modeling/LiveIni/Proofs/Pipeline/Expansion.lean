import LiveIni.Proofs.Document.Marks
import LiveIni.Proofs.Pipeline.RoundTrip

/-!
Documents written with what their values stand for. Values are not quoted, so that their texts meet
the rules for lines. What is written has the headers, comments and keys of the document and
nothing else as long as every value is confined to the line of its key, and only then.
-/

namespace LiveIni

/-- What the value is written as when it is expanded. -/
def KeyValue.rendered (kv : KeyValue) : Text :=
  kv.typed.render?.getD []

namespace Document

variable {d : Document}

theorem legible_rows {sections : Sections}
    (legible : ∀ named ∈ sections, LegibleSection named)
    : ∀ row ∈ rows sections, row.Legible := by
  intro row member
  rcases row_cases member with rfl | ⟨named, inDocument, rfl | ⟨pair, inSection, rfl⟩⟩
  · trivial
  · exact (legible named inDocument).1
  · exact (legible named inDocument).2 pair inSection

/-- The rows of sections are confined if the values of their keys are. -/
theorem confined_rows_iff {sections : Sections} {value : KeyValue → Text}
    : (∀ row ∈ rows sections, row.Confined value)
      ↔ ∀ named ∈ sections, ∀ kv ∈ Entries.keyValues named.2, Confined kv.key (value kv) := by
  constructor
  · intro confined named inDocument kv isKey
    obtain ⟨⟨name, entry⟩, inSection, holds⟩ := List.mem_filterMap.mp isKey
    have row := confined _ (entry_mem_rows inDocument inSection)
    cases entry with
    | comment text => cases holds
    | keyValue found =>
        cases holds
        exact row
  · intro confined row member
    rcases row_cases member with rfl | ⟨named, inDocument, rfl | ⟨⟨name, entry⟩, inSection, rfl⟩⟩
    · trivial
    · trivial
    · cases entry with
      | comment text => trivial
      | keyValue kv =>
          exact confined named inDocument kv (List.mem_filterMap.mpr ⟨_, inSection, rfl⟩)

/-- A document whose values can all be written is written expanded as its rows. -/
theorem text?_expanded
    (renders : ∀ named ∈ d.sections, ∀ kv ∈ Entries.keyValues named.2, kv.typed.render?.isSome)
    (lineEnd : Text)
    : d.text? .expanded lineEnd
      = some (((rows d.sections).map (Row.text KeyValue.rendered)).flatMap (· ++ lineEnd)) := by
  refine text?_of_rows (fun named inDocument pair inSection => ?_) lineEnd
  obtain ⟨name, entry⟩ := pair
  cases entry with
  | comment text => rfl
  | keyValue kv =>
      have isSome := renders named inDocument kv (List.mem_filterMap.mpr ⟨_, inSection, rfl⟩)
      obtain ⟨value, rendered⟩ := Option.isSome_iff_exists.mp isSome
      rw [WrittenAs, entryLines?, Row.text, KeyValue.rendered, rendered]
      rfl

end Document

namespace Pipeline

variable {p writer : Pipeline} {scope : Scope} {expand : Bool} {text : Text} {d : Document}

/-- All values of a parsed document can be written. -/
theorem ParsesTo.renders (parsed : p.ParsesTo scope expand text d)
    : ∀ named ∈ d.sections, ∀ kv ∈ Entries.keyValues named.2, kv.typed.render?.isSome := by
  intro named inDocument kv isKey
  obtain ⟨isOf, _, admits⟩ := parsed.isOf
  obtain ⟨⟨name, entry⟩, inSection, holds⟩ := List.mem_filterMap.mp isKey
  have valued := (isOf.restorable named inDocument).valued _ inSection
  have admitted := admits kv.raw
    (isOf.raw_mem (Document.raw_mem_rawValues inDocument inSection holds))
  cases entry with
  | comment text => cases holds
  | keyValue found =>
      cases holds
      have typed : (p.readings scope expand kv.raw).1 = kv.typed :=
        congrArg KeyValue.typed (Entry.keyValue.inj valued)
      exact typed ▸ admitted.meaning.2

theorem dumps_expanded (writer : Pipeline)
    (renders : ∀ named ∈ d.sections, ∀ kv ∈ Entries.keyValues named.2, kv.typed.render?.isSome)
    (world : World)
    : writer.dumps d "expanded".toList world
      = (.ok (((Document.rows d.sections).map (Row.text KeyValue.rendered)).flatMap
          (· ++ writer.newline)), world) := by
  have mode : OutputMode.ofName? "expanded".toList = some .expanded := by decide
  unfold dumps
  rw [mode]
  dsimp only
  rw [Document.text?_expanded renders]
  rfl

/-- A parsed document is written, raw and expanded, in every world. Written raw it has the headers,
comments and keys of the document in their order, and no malformed line. Written expanded it
has the same ones, and no others, exactly if every value is confined to the line of its key:
the value has nothing but blanks after its first line end, and does not close a bracket that the
key opens.
Witness: a row has at least its own mark, whatever its value is, so that the marks of all rows come
to the same only if those of every row do.
-/
theorem dumps_expanded_marks_iff (parsed : p.ParsesTo scope expand text d)
    (isEnd : writer.newline ∈ Text.lineEnds)
    : ∃ plain expanded,
        (∀ world, writer.dumps d "unexpanded".toList world = (.ok plain, world))
        ∧ (∀ world, writer.dumps d "expanded".toList world = (.ok expanded, world))
        ∧ Text.marks plain = (Document.rows d.sections).filterMap Row.mark?
        ∧ (∀ shown, .malformed shown ∉ Text.marks plain)
        ∧ (Text.marks expanded = Text.marks plain
          ↔ ∀ named ∈ d.sections, ∀ kv ∈ Entries.keyValues named.2,
            Confined kv.key kv.rendered) := by
  have restorable := parsed.isOf.1.restorable
  have legible := Document.legible_rows fun named member => (restorable named member).legible
  refine ⟨_, _, dumps_unexpanded writer d, dumps_expanded writer parsed.renders, ?_⟩
  rw [Document.written_eq, Row.marks_rows_raw isEnd legible]
  refine ⟨rfl, ?_, ?_⟩
  · intro shown member
    obtain ⟨row, _, mark⟩ := List.mem_filterMap.mp member
    cases row with
    | header name => cases mark
    | blank => cases mark
    | entry entry => cases entry <;> cases mark
  · exact (Row.marks_rows_eq_iff isEnd legible _).trans Document.confined_rows_iff

/-- A document with a value that ends its line. -/
def endedValue : Document where
  sections := [
    (Document.noSection, [("Comment1".toList, .comment "; one".toList)]),
    (['s'], [("[a".toList, .keyValue ⟨"[a".toList, "$x".toList, .string "v\n ".toList⟩)])]

/-- A value that ends its line is confined if only blanks come after that. -/
theorem dumps_expanded_marks_iff_endedValue
    : ({} : Pipeline).ParsesTo { bindings := [(['x'], .value (.text "v\n ".toList))] } false
        "; one\n[s]\n [a =$x".toList endedValue
      ∧ ∃ plain expanded,
        (∀ world, ({} : Pipeline).dumps endedValue "unexpanded".toList world = (.ok plain, world))
        ∧ (∀ world, ({} : Pipeline).dumps endedValue "expanded".toList world
          = (.ok expanded, world))
        ∧ Text.marks plain
          = [.comment "; one".toList, .header ['s'], .key "[a".toList]
        ∧ Text.marks expanded = Text.marks plain := by
  have parsed : ({} : Pipeline).ParsesTo { bindings := [(['x'], .value (.text "v\n ".toList))] }
      false "; one\n[s]\n [a =$x".toList endedValue :=
    parsesTo_of_toOption (by decide +kernel)
  have isEnd : ({} : Pipeline).newline ∈ Text.lineEnds := by decide
  obtain ⟨plain, expanded, raw, written, marks, _, same⟩ := dumps_expanded_marks_iff parsed isEnd
  exact ⟨parsed, plain, expanded, raw, written, marks, same.mpr (by decide +kernel)⟩

/-- A document with a value that goes on after its line. -/
def brokenValue : Document where
  sections := [(Document.noSection,
    [(['a'], .keyValue ⟨['a'], "$x".toList, .string "1\n[b]".toList⟩)])]

/-- A document with a value that closes the bracket of its key. -/
def closingValue : Document where
  sections := [(Document.noSection,
    [("[a".toList, .keyValue ⟨"[a".toList, "$x".toList, .string "v]".toList⟩)])]

/-- Expanded values do change what lines are: one that goes on after its line adds a section, and one
that closes the bracket of its key turns the key into a header.
-/
theorem dumps_expanded_changes_marks
    : (({} : Pipeline).ParsesTo { bindings := [(['x'], .value (.text "1\n[b]".toList))] } false
          "a=$x".toList brokenValue
        ∧ ∃ plain expanded,
          (∀ world, ({} : Pipeline).dumps brokenValue "unexpanded".toList world
            = (.ok plain, world))
          ∧ (∀ world, ({} : Pipeline).dumps brokenValue "expanded".toList world
            = (.ok expanded, world))
          ∧ Text.marks plain = [.key ['a']]
          ∧ Text.marks expanded = [.key ['a'], .header ['b']])
      ∧ ({} : Pipeline).ParsesTo { bindings := [(['x'], .value (.text "v]".toList))] } false
          "[a=$x".toList closingValue
        ∧ ∃ plain expanded,
          (∀ world, ({} : Pipeline).dumps closingValue "unexpanded".toList world
            = (.ok plain, world))
          ∧ (∀ world, ({} : Pipeline).dumps closingValue "expanded".toList world
            = (.ok expanded, world))
          ∧ Text.marks plain = [.key "[a".toList]
          ∧ Text.marks expanded = [.header "a=v".toList] := by
  refine ⟨⟨parsesTo_of_toOption (by decide +kernel), "a=$x\n\n".toList, "a=1\n[b]\n\n".toList,
    fun world => rfl, fun world => rfl, by decide +kernel, by decide +kernel⟩, ?_⟩
  exact ⟨parsesTo_of_toOption (by decide +kernel), "[a=$x\n\n".toList, "[a=v]\n\n".toList,
    fun world => rfl, fun world => rfl, by decide +kernel, by decide +kernel⟩

end Pipeline

end LiveIni
