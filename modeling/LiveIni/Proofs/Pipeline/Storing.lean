import LiveIni.Proofs.Document.Building
import LiveIni.Proofs.Document.Writing
import LiveIni.Proofs.Pipeline.Renewal

/-!
The sections that reading and resolving come to. The lines of a text decide which sections and
entries there are and under which names; what the raw texts stand for only fills in the values.
-/

namespace LiveIni

namespace Entry

/-- An entry with the value that its raw text has by the given readings. -/
def reread (readings : Text → Reading) : Entry → Entry
  | comment text => comment text
  | keyValue kv => keyValue { kv with typed := (readings kv.raw).1 }

theorem reread_keepsKeys (readings : Text → Reading) : KeepsKeys (reread readings) := by
  intro entry
  cases entry <;> rfl

end Entry

/-- The entry that a line adds to its section. -/
def PlacedLine.entry? (readings : Text → Reading) (l : PlacedLine) : Option Entry :=
  match l.line with
  | .comment text => some (.comment text)
  | .keyValue key raw => some (.keyValue ⟨key, raw, (readings raw).1⟩)
  | _ => none

/-- The entry that a line adds says what the line says, with its value by the readings. -/
theorem PlacedLine.of_entry? {readings : Text → Reading} {l : PlacedLine} {entry : Entry}
    (adds : l.entry? readings = some entry)
    : l.line = entry.line ∧ entry.reread readings = entry := by
  obtain ⟨number, inSection, line⟩ := l
  cases line with
  | comment text =>
      cases adds
      exact ⟨rfl, rfl⟩
  | keyValue key raw =>
      cases adds
      exact ⟨rfl, rfl⟩
  | blank | header _ | malformed _ => cases adds

-----------------------------------------------------------------------------------------
-- Storing lines
-----------------------------------------------------------------------------------------

namespace Sections

/-- The sections after a line. -/
def storeLine (readings : Text → Reading) (sections : Sections) (l : PlacedLine) : Sections :=
  match l.line with
  | .header name => sections.openSection name
  | _ =>
    match l.entry? readings with
    | some entry => sections.update l.inSection (·.add entry)
    | none => sections

variable {sections : Sections}

theorem openSection_mapEntries (f : Entry → Entry) (sections : Sections) (name : Text)
    : openSection (sections.mapEntries f) name = (sections.openSection name).mapEntries f := by
  unfold openSection mapEntries
  rw [Table.has_mapValues]
  split
  · rfl
  · exact Table.set_mapValues (Table.mapValues f) [] sections

theorem update_add_mapEntries {f : Entry → Entry} (keeps : Entry.KeepsKeys f)
    (sections : Sections) (name : Text) (entry : Entry)
    : update (sections.mapEntries f) name (·.add (f entry))
      = (sections.update name (·.add entry)).mapEntries f := by
  have changed : entriesOf (sections.mapEntries f) name
      = (sections.entriesOf name).mapValues f := by
    unfold entriesOf mapEntries
    rw [Table.get?_mapValues]
    cases Table.get? name sections <;> rfl
  unfold update
  dsimp only
  rw [changed, Entries.add_mapValues keeps]
  exact Table.set_mapValues (Table.mapValues f) _ sections

/-- A line is stored by other readings as it is stored by these, up to values. -/
theorem storeLine_reread (first second : Text → Reading) (sections : Sections) (l : PlacedLine)
    : storeLine second (sections.mapEntries (Entry.reread second)) l
      = (storeLine first sections l).mapEntries (Entry.reread second) := by
  obtain ⟨number, inSection, line⟩ := l
  cases line with
  | header name => exact openSection_mapEntries _ sections name
  | blank => rfl
  | malformed text => rfl
  | comment text =>
      exact update_add_mapEntries (Entry.reread_keepsKeys second) sections inSection
        (.comment text)
  | keyValue key raw =>
      exact update_add_mapEntries (Entry.reread_keepsKeys second) sections inSection
        (.keyValue ⟨key, raw, (first raw).1⟩)

/-- Lines are stored by any readings as they are stored by others, up to values. -/
theorem foldl_storeLine_reread (first second : Text → Reading) (lines : List PlacedLine)
    : lines.foldl (storeLine second) []
      = (lines.foldl (storeLine first) []).mapEntries (Entry.reread second) := by
  have stored (sections : Sections)
      : lines.foldl (storeLine second) (sections.mapEntries (Entry.reread second))
        = (lines.foldl (storeLine first) sections).mapEntries (Entry.reread second) := by
    induction lines generalizing sections with
    | nil => rfl
    | cons l rest ih =>
        rw [List.foldl_cons, List.foldl_cons, storeLine_reread first second, ih]
  exact stored []

/-- What holds of the sections' names, and of entries as lines are added to them, holds of all
that lines store, by induction on the lines.
-/
theorem foldl_storeLine_each {readings : Text → Reading} {named : Text → Prop}
    {filled : Entries → Prop} (none : filled []) {lines : List PlacedLine}
    (headers : ∀ l ∈ lines, ∀ name, l.line = .header name → named name)
    (added : ∀ l ∈ lines, ∀ entry, l.entry? readings = some entry →
      named l.inSection ∧ ∀ entries : Entries, filled entries → filled (entries.add entry))
    (each : sections.Each named filled)
    : (lines.foldl (storeLine readings) sections).Each named filled := by
  induction lines generalizing sections with
  | nil => exact each
  | cons l rest ih =>
      refine ih (fun l member => headers l (List.mem_cons_of_mem _ member))
        (fun l member => added l (List.mem_cons_of_mem _ member)) ?_
      have adds := added l List.mem_cons_self
      have header := headers l List.mem_cons_self
      obtain ⟨number, inSection, line⟩ := l
      cases line with
      | header name => exact each.openSection (header name rfl) none
      | blank => exact each
      | malformed text => exact each
      | comment text =>
          obtain ⟨isNamed, keeps⟩ := adds (.comment text) rfl
          have stored : (sections.update inSection (·.add (.comment text))).Each named filled :=
            each.update isNamed none keeps
          exact stored
      | keyValue key raw =>
          obtain ⟨isNamed, keeps⟩ := adds (.keyValue ⟨key, raw, (readings raw).1⟩) rfl
          exact each.update isNamed none keeps

/-- What holds of every entry that a line adds holds of every entry that lines store. -/
theorem foldl_storeLine_entries {readings : Text → Reading} {named : Text → Prop}
    {holds : Entry → Prop} {lines : List PlacedLine}
    (headers : ∀ l ∈ lines, ∀ name, l.line = .header name → named name)
    (added : ∀ l ∈ lines, ∀ entry, l.entry? readings = some entry →
      named l.inSection ∧ holds entry)
    : (lines.foldl (storeLine readings) []).Each named
        fun entries => ∀ pair ∈ entries, holds pair.2 := by
  refine foldl_storeLine_each (by simp) headers (fun l member entry adds => ?_) (by simp [Each])
  obtain ⟨isNamed, entryHolds⟩ := added l member entry adds
  refine ⟨isNamed, fun entries each pair inEntries => ?_⟩
  rcases Entries.mem_of_mem_put inEntries with rfl | ⟨old, before⟩
  · exact entryHolds
  · exact each (old, pair.2) before

theorem Distinct.storeLine (distinct : sections.Distinct) (readings : Text → Reading)
    (l : PlacedLine)
    : (sections.storeLine readings l).Distinct := by
  have updated (name : Text) (entry : Entry) : (sections.update name (·.add entry)).Distinct :=
    distinct.update (fun entries nodup => Entries.nodup_names_put nodup _ entry) name
  obtain ⟨number, inSection, line⟩ := l
  cases line with
  | header name => exact distinct.openSection name
  | blank => exact distinct
  | malformed text => exact distinct
  | comment text => exact updated inSection (.comment text)
  | keyValue key raw => exact updated inSection (.keyValue ⟨key, raw, (readings raw).1⟩)

/-- Lines store everything under distinct names, by induction on the lines. -/
theorem foldl_storeLine_distinct (readings : Text → Reading) (lines : List PlacedLine)
    : (lines.foldl (storeLine readings) []).Distinct := by
  have kept (sections : Sections) (distinct : sections.Distinct)
      : (lines.foldl (storeLine readings) sections).Distinct := by
    induction lines generalizing sections with
    | nil => exact distinct
    | cons l rest ih => exact ih _ (distinct.storeLine readings l)
  exact kept [] .nil

end Sections

-----------------------------------------------------------------------------------------
-- What the builder stores
-----------------------------------------------------------------------------------------

namespace Builder

variable {readings : Text → Reading} {b : Builder} {sections : Sections}

theorem Builds.noteInvalid (builds : b.Builds sections) (line : Option Nat)
    (inSection key : Text) (invalid : Option InvalidLiteral)
    : (b.noteInvalid line inSection key invalid).Builds sections := by
  cases invalid with
  | some literal => exact builds.report _
  | none => exact builds

theorem Builds.storeLine (builds : b.Builds sections) (l : PlacedLine)
    : (b.storeLine readings l).Builds (sections.storeLine readings l) := by
  obtain ⟨number, inSection, line⟩ := l
  cases line with
  | blank => exact builds
  | malformed text => exact builds
  | header name => exact builds.openSection name
  | comment text => exact builds.addComment inSection text
  | keyValue key raw =>
      have noted := builds.noteInvalid (some number) inSection key (readings raw).2
      have stored := noted.addEntry inSection key (.keyValue ⟨key, raw, (readings raw).1⟩)
      unfold Builder.storeLine storeValue
      dsimp only
      split
      · exact stored
      · exact stored.report _

theorem Builds.ofMalformed (lines : List PlacedLine) : (ofMalformed lines).Builds [] := by
  have noted (diagnostics : List Diagnostic) (b : Builder) (builds : b.Builds [])
      : (diagnostics.foldl Builder.report b).Builds [] := by
    induction diagnostics generalizing b with
    | nil => exact builds
    | cons d rest ih => exact ih _ (builds.report d)
  exact noted _ {} .new

/-- The sections that are built of lines. -/
theorem sections_foldl_storeLine (readings : Text → Reading) (lines : List PlacedLine)
    : (lines.foldl (storeLine readings) (ofMalformed lines)).build.sections
      = lines.foldl (Sections.storeLine readings) [] :=
  ((Builds.ofMalformed lines).foldl fun l _ _ _ builds => builds.storeLine l).1

theorem Builds.renewEntry (builds : b.Builds sections) (inSection : Text)
    (named : Text × Entry)
    : (b.renewEntry readings inSection named).Builds
        (sections.update inSection (·.put named.1 (named.2.reread readings))) := by
  obtain ⟨name, entry⟩ := named
  cases entry with
  | comment text => exact builds.addEntry inSection name (.comment text)
  | keyValue kv =>
      exact (builds.noteInvalid none inSection kv.key (readings kv.raw).2).addEntry inSection name _

theorem Builds.renewSection (builds : b.Builds sections) (named : Text × Entries)
    : (b.renewSection readings named).Builds
        (sections.restore (Entry.reread readings) named) :=
  (builds.openSection named.1).foldl fun entry _ _ _ stored => stored.renewEntry named.1 entry

/-- The sections that are built of sections with distinct names are the same ones, with their
values by the readings.
-/
theorem sections_foldl_renewSection (readings : Text → Reading) (distinct : sections.Distinct)
    : (sections.foldl (renewSection readings) {}).build.sections
      = sections.mapEntries (Entry.reread readings) := by
  have built : (sections.foldl (renewSection readings) {}).Builds
      (sections.foldl (Sections.restore (Entry.reread readings)) []) :=
    Builds.new.foldl fun named _ _ _ builds => builds.renewSection named
  rw [← Sections.foldl_restore _ distinct]
  exact built.1

end Builder

end LiveIni
