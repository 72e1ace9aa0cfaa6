import LiveIni.Proofs.Document.Entries

/-!
Storing entries in the sections of a document, without counts. The builder does just that: its
counts only spare it the search among numbers that are in use anyway.
-/

namespace LiveIni

/-- The sections of a document by their names. -/
abbrev Sections := Table Entries

namespace Sections

/-- The entries of a section, none if it is not there. -/
def entriesOf (sections : Sections) (name : Text) : Entries :=
  (sections.get? name).getD []

/-- The sections with the entries of one of them changed; it is made if it is not there. -/
def update (sections : Sections) (name : Text) (change : Entries → Entries) : Sections :=
  Table.set name (change (sections.entriesOf name)) sections

/-- The sections with one opened; it is made if it is not there. -/
def openSection (sections : Sections) (name : Text) : Sections :=
  if sections.has name then sections else Table.set name [] sections

variable {sections : Sections} {name : Text}

theorem entriesOf_of_not_mem (absent : name ∉ sections.names) : sections.entriesOf name = [] := by
  rw [entriesOf, Table.get?_eq_none_iff.mpr absent]
  rfl

theorem openSection_of_not_mem (absent : name ∉ sections.names)
    : sections.openSection name = sections ++ [(name, [])] := by
  rw [openSection, if_neg fun has => absent (Table.has_eq_true_iff.mp has),
    Table.set_of_not_mem absent]

/-- A section that is not there is updated from nothing, as the last one. -/
theorem update_of_not_mem (absent : name ∉ sections.names) (change : Entries → Entries)
    : sections.update name change = sections ++ [(name, change [])] := by
  rw [update, entriesOf_of_not_mem absent, Table.set_of_not_mem absent]

/-- The last section, if it is the only one of its name, is updated in its place. -/
theorem update_last (absent : name ∉ sections.names) (entries : Entries)
    (change : Entries → Entries)
    : update (sections ++ [(name, entries)]) name change
      = sections ++ [(name, change entries)] := by
  have found : Table.get? name (sections ++ [(name, entries)]) = some entries := by
    rw [Table.get?_append_of_not_mem absent, Table.get?, if_pos rfl]
  rw [update, entriesOf, found, Table.set_append_of_not_mem absent, Table.set, if_pos rfl]
  rfl

/-- Updates of the last section, one after the other, come together in its place, by induction on
the updates.
-/
theorem foldl_update_last {α : Type} (absent : name ∉ sections.names)
    (change : α → Entries → Entries) (items : List α) (entries : Entries)
    : items.foldl (fun s a => s.update name (change a)) (sections ++ [(name, entries)])
      = sections ++ [(name, items.foldl (fun e a => change a e) entries)] := by
  induction items generalizing entries with
  | nil => rfl
  | cons item rest ih => rw [List.foldl_cons, update_last absent, ih, List.foldl_cons]

/-- Updating one section leaves all others. -/
theorem entriesOf_update (sections : Sections) (name other : Text) (change : Entries → Entries)
    : (sections.update name change).entriesOf other
      = if other = name then change (sections.entriesOf name) else sections.entriesOf other := by
  rw [update, entriesOf]
  split
  · next same => rw [same, Table.get?_set_self]; rfl
  · next different => rw [Table.get?_set_of_ne different]; rfl

theorem entriesOf_openSection (sections : Sections) (name other : Text)
    : (sections.openSection name).entriesOf other = sections.entriesOf other := by
  unfold openSection
  split
  · rfl
  · next absent =>
      by_cases same : other = name
      · subst same
        have missing := fun member => absent (Table.has_eq_true_iff.mpr member)
        rw [entriesOf_of_not_mem missing, entriesOf, Table.get?_set_self]
        rfl
      · rw [entriesOf, Table.get?_set_of_ne same]
        rfl

-----------------------------------------------------------------------------------------
-- Extending sections by blocks of entries
-----------------------------------------------------------------------------------------

/-- The sections with the one that a block names opened, and the entries of the block added to it
one after the other.
-/
def extend (sections : Sections) (block : Text × Entries) : Sections :=
  block.2.foldl (fun s pair => s.update block.1 (·.add pair.2)) (sections.openSection block.1)

/-- A section that is updated need not be opened before. -/
theorem update_openSection (sections : Sections) (name : Text) (change : Entries → Entries)
    : (sections.openSection name).update name change = sections.update name change := by
  by_cases member : name ∈ sections.names
  · rw [openSection, if_pos (Table.has_eq_true_iff.mpr member)]
  · rw [openSection_of_not_mem member, update_last member, update_of_not_mem member]

theorem extend_of_ne_nil {block : Text × Entries} (nonempty : block.2 ≠ [])
    (sections : Sections)
    : sections.extend block
      = block.2.foldl (fun s pair => s.update block.1 (·.add pair.2)) sections := by
  obtain ⟨name, entries⟩ := block
  cases entries with
  | nil => exact absurd rfl nonempty
  | cons pair rest =>
      rw [extend, List.foldl_cons, update_openSection, List.foldl_cons]

/-- A block that is filled by its own entries becomes the last section if its name is new. -/
theorem extend_of_not_mem {block : Text × Entries} (absent : block.1 ∉ sections.names)
    (filled : block.2.Filled)
    : sections.extend block = sections ++ [block] := by
  rw [extend, openSection_of_not_mem absent, foldl_update_last absent, filled.foldl_add]

/-- Blocks with new names become the last sections, by induction on the blocks. -/
theorem foldl_extend_of_nodup {before after : Sections}
    (distinct : (Table.names (before ++ after)).Nodup)
    (filled : ∀ block ∈ after, block.2.Filled)
    : after.foldl extend before = before ++ after := by
  induction after generalizing before with
  | nil => exact (List.append_nil _).symm
  | cons block rest ih =>
      have appended : before ++ block :: rest = (before ++ [block]) ++ rest := by
        rw [List.append_assoc]
        rfl
      have absent : block.1 ∉ before.names := Table.not_mem_of_nodup_append distinct
      rw [appended] at distinct ⊢
      rw [List.foldl_cons, extend_of_not_mem absent (filled block List.mem_cons_self)]
      exact ih distinct fun named member => filled named (List.mem_cons_of_mem _ member)

-----------------------------------------------------------------------------------------
-- Properties of every section
-----------------------------------------------------------------------------------------

/-- Every section has a name and entries with these properties. -/
def Each (named : Text → Prop) (filled : Entries → Prop) (sections : Sections) : Prop :=
  ∀ pair ∈ sections, named pair.1 ∧ filled pair.2

variable {named : Text → Prop} {filled : Entries → Prop}

theorem Each.entriesOf (each : Each named filled sections) (none : filled []) (name : Text)
    : filled (sections.entriesOf name) := by
  rw [Sections.entriesOf]
  cases found : Table.get? name sections with
  | none => exact none
  | some entries => exact (each _ (Table.mem_of_get? found)).2

theorem Each.openSection (each : Each named filled sections) (isNamed : named name)
    (none : filled [])
    : Each named filled (sections.openSection name) := by
  unfold Sections.openSection
  split
  · exact each
  · intro pair member
    rcases Table.mem_of_mem_set member with rfl | old
    · exact ⟨isNamed, none⟩
    · exact each pair old

theorem Each.update (each : Each named filled sections) (isNamed : named name)
    (none : filled []) {change : Entries → Entries}
    (keeps : ∀ entries, filled entries → filled (change entries))
    : Each named filled (sections.update name change) := by
  intro pair member
  rcases Table.mem_of_mem_set member with rfl | old
  · exact ⟨isNamed, keeps _ (each.entriesOf none name)⟩
  · exact each pair old

end Sections

-----------------------------------------------------------------------------------------
-- The builder's counts
-----------------------------------------------------------------------------------------

namespace Builder

/-- No number up to the count of a section is free there. -/
def Counted (b : Builder) : Prop :=
  ∀ inSection k, 1 ≤ k → k ≤ (b.counts.get? inSection).getD 0
    → commentName k ∈ (Sections.entriesOf b.sections inSection).names

theorem Counted.new : Counted {} := by
  intro inSection k least most
  exact absurd (Nat.le_trans least most) (Nat.not_succ_le_zero 0)

variable {b : Builder}

/-- The search from the count on finds the first free number of all. -/
theorem Counted.nextNumber (counted : b.Counted) (inSection : Text)
    : b.nextNumber inSection
      = freeNumber (Sections.entriesOf b.sections inSection)
          ((Sections.entriesOf b.sections inSection).length + 1) 1 := by
  refine freeNumber_eq_of_used (Nat.le_add_left 1 _) fun k least below => ?_
  exact counted inSection k least (Nat.le_of_lt_succ below)

/-- Where the entries of every section keep their names, and one section's count is set to a
number with nothing free up to it, the counts stay right.
-/
theorem Counted.count {sections : Sections} {diagnostics : List Diagnostic} {name : Text}
    {number : Nat} (counted : b.Counted)
    (grows : ∀ inSection, ∀ n ∈ (Sections.entriesOf b.sections inSection).names,
      n ∈ (sections.entriesOf inSection).names)
    (used : ∀ k, 1 ≤ k → k ≤ number → commentName k ∈ (sections.entriesOf name).names)
    : Counted ⟨sections, b.counts.set name number, diagnostics⟩ := by
  intro inSection k least most
  change k ≤ (Table.get? inSection (Table.set name number b.counts)).getD 0 at most
  by_cases same : inSection = name
  · subst same
    rw [Table.get?_set_self] at most
    exact used k least most
  · rw [Table.get?_set_of_ne same] at most
    exact grows inSection _ (counted inSection k least most)

theorem Counted.openSection (counted : b.Counted) (name : Text)
    : (b.openSection name).Counted := by
  change Counted ⟨Sections.openSection b.sections name, b.counts.set name 0, b.diagnostics⟩
  refine counted.count (fun inSection n member => ?_) fun k least most => ?_
  · rwa [Sections.entriesOf_openSection]
  · exact absurd (Nat.le_trans least most) (Nat.not_succ_le_zero 0)

/-- An update that only adds names to a section, and with them the name of the next comment,
leaves the counts right when that comment is counted.
-/
theorem Counted.update (counted : b.Counted) {inSection : Text} {change : Entries → Entries}
    (grows : ∀ entries, entries = Sections.entriesOf b.sections inSection →
      (∀ n ∈ entries.names, n ∈ (change entries).names)
        ∧ entries.freeName ∈ (change entries).names)
    : Counted ⟨Sections.update b.sections inSection change,
        b.counts.set inSection (b.nextNumber inSection), b.diagnostics⟩ := by
  obtain ⟨kept, free⟩ := grows _ rfl
  refine counted.count (fun other n member => ?_) fun k least most => ?_
  · rw [Sections.entriesOf_update]
    split
    · next same => exact kept n (same ▸ member)
    · exact member
  · rw [Sections.entriesOf_update, if_pos rfl]
    rw [counted.nextNumber] at most
    rcases Nat.eq_or_lt_of_le most with last | below
    · exact last ▸ free
    · exact kept _ (mem_names_of_lt_freeNumber least below)

/-- The builder has these sections, and its counts are right. -/
def Builds (b : Builder) (sections : Sections) : Prop :=
  b.sections = sections ∧ b.Counted

theorem Builds.new : Builds {} [] :=
  ⟨rfl, .new⟩

variable {sections : Sections}

theorem Builds.report (builds : b.Builds sections) (d : Diagnostic)
    : (b.report d).Builds sections :=
  builds

theorem Builds.openSection (builds : b.Builds sections) (name : Text)
    : (b.openSection name).Builds (sections.openSection name) := by
  obtain ⟨rfl, counted⟩ := builds
  exact ⟨rfl, counted.openSection name⟩

/-- A comment is added under the first free name. -/
theorem Builds.addComment (builds : b.Builds sections) (inSection text : Text)
    : (b.addComment inSection text).1.Builds
        (sections.update inSection (·.add (.comment text))) := by
  obtain ⟨rfl, counted⟩ := builds
  have added : (b.addComment inSection text).1
      = ⟨Sections.update b.sections inSection (·.add (.comment text)),
          b.counts.set inSection (b.nextNumber inSection), b.diagnostics⟩ := by
    unfold Builder.addComment
    dsimp only
    rw [counted.nextNumber]
    rfl
  rw [added]
  refine ⟨rfl, counted.update fun entries _ => ⟨fun n member => ?_, ?_⟩⟩
  · exact Entries.mem_names_put _ _ (.inr member)
  · exact Entries.mem_names_put _ _ (.inl rfl)

/-- The builder takes a name away just where the section does. -/
theorem takesName_eq (b : Builder) (inSection name : Text) (entry : Entry)
    : b.takesName inSection name entry
      = (Sections.entriesOf b.sections inSection).takesName name entry := by
  have found : b.entriesOf inSection = Sections.entriesOf b.sections inSection := rfl
  unfold takesName Entries.takesName
  rw [found]
  cases entry with
  | comment text => rfl
  | keyValue kv =>
      rcases Table.get? name (Sections.entriesOf b.sections inSection) with _ | _ | _ <;> rfl

/-- An entry is stored as the section stores it. -/
theorem Builds.addEntry (builds : b.Builds sections) (inSection name : Text) (entry : Entry)
    : (b.addEntry inSection name entry).1.Builds
        (sections.update inSection (·.put name entry)) := by
  obtain ⟨rfl, counted⟩ := builds
  cases taken : b.takesName inSection name entry with
  | false =>
      have stored : (b.addEntry inSection name entry).1
          = ⟨Sections.update b.sections inSection (·.put name entry), b.counts,
              b.diagnostics⟩ := by
        unfold Builder.addEntry Sections.update Entries.put
        dsimp only
        rw [← takesName_eq, taken]
        rfl
      rw [stored]
      refine ⟨rfl, fun other k least most => ?_⟩
      have used := counted other k least most
      rw [Sections.entriesOf_update]
      split
      · next same => exact Entries.mem_names_put name entry (.inr (same ▸ used))
      · exact used
  | true =>
      have stored : (b.addEntry inSection name entry).1
          = ⟨Sections.update b.sections inSection (·.put name entry),
              b.counts.set inSection (b.nextNumber inSection), b.diagnostics⟩ := by
        unfold Builder.addEntry Builder.renameComment Sections.update Entries.put
        dsimp only
        rw [← takesName_eq, taken, if_pos rfl, if_pos rfl, counted.nextNumber]
        dsimp only [Builder.entriesOf]
        rw [Table.get?_set_self, Table.set_set]
        rfl
      rw [stored]
      refine ⟨rfl, counted.update fun entries same => ⟨fun n member => ?_, ?_⟩⟩
      · exact Entries.mem_names_put name entry (.inr member)
      · -- The comment now has the free name, and so the count may include it.
        rw [takesName_eq, ← same] at taken
        obtain ⟨_, comment, found, _⟩ := Entries.takesName_eq_true_iff.mp taken
        have used : name ∈ entries.names := Table.mem_names_of_mem (Table.mem_of_get? found)
        unfold Entries.put
        rw [if_pos taken, Table.mem_names_set, Entries.names_rename]
        exact .inr (List.mem_map.mpr ⟨name, used, if_pos rfl⟩)

/-- Steps that each build what they should do so together, by induction on the steps. -/
theorem Builds.foldl {α : Type} {step : Builder → α → Builder} {act : Sections → α → Sections}
    {items : List α}
    (steps : ∀ a ∈ items, ∀ b sections, Builds b sections → (step b a).Builds (act sections a))
    (builds : b.Builds sections)
    : (items.foldl step b).Builds (items.foldl act sections) := by
  induction items generalizing b sections with
  | nil => exact builds
  | cons item rest ih =>
      exact ih (fun a member => steps a (List.mem_cons_of_mem item member))
        (steps item List.mem_cons_self b sections builds)

end Builder

end LiveIni
