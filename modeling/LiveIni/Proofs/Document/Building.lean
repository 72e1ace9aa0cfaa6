import LiveIni.Proofs.Document.Sections

/-!
Documents that a builder can build, step by step in any order. Their sections have distinct
names, and so have the entries of each section. Such sections can be stored again, section by
section and entry by entry under the same names, and nothing is lost or moved.
-/

namespace LiveIni

/-- Sections have distinct names, and the entries of each of them do. -/
structure Sections.Distinct (sections : Sections) : Prop where
  names : sections.names.Nodup
  entries : sections.Each (fun _ => True) (fun entries => entries.names.Nodup)

namespace Sections

variable {sections : Sections}

theorem Distinct.openSection (distinct : sections.Distinct) (name : Text)
    : (sections.openSection name).Distinct where
  names := by
    unfold Sections.openSection
    split
    · exact distinct.names
    · exact Table.nodup_names_set distinct.names _
  entries := distinct.entries.openSection trivial List.nodup_nil

theorem Distinct.update (distinct : sections.Distinct) {change : Entries → Entries}
    (keeps : ∀ entries : Entries, entries.names.Nodup → (change entries).names.Nodup)
    (name : Text)
    : (sections.update name change).Distinct where
  names := Table.nodup_names_set distinct.names _
  entries := distinct.entries.update trivial List.nodup_nil keeps

theorem Distinct.nil : Distinct [] where
  names := List.nodup_nil
  entries := fun _ member => by cases member

end Sections

-----------------------------------------------------------------------------------------
-- Steps of a builder
-----------------------------------------------------------------------------------------

/-- What can be done to a builder. -/
inductive BuilderStep where
  | openSection (name : Text)
  | addComment (inSection text : Text)
  | addEntry (inSection name : Text) (entry : Entry)
  | report (d : Diagnostic)

namespace Builder

def step (b : Builder) : BuilderStep → Builder
  | .openSection name => b.openSection name
  | .addComment inSection text => (b.addComment inSection text).1
  | .addEntry inSection name entry => (b.addEntry inSection name entry).1
  | .report d => b.report d

/-- A new builder after some steps. -/
def run (steps : List BuilderStep) : Builder :=
  steps.foldl step {}

/-- A builder with right counts and distinct names keeps both in every step. -/
theorem step_distinct {b : Builder} (counted : b.Counted)
    (distinct : Sections.Distinct b.sections) (action : BuilderStep)
    : (b.step action).Counted ∧ Sections.Distinct (b.step action).sections := by
  have builds : b.Builds b.sections := ⟨rfl, counted⟩
  cases action with
  | openSection name =>
      exact ⟨(builds.openSection name).2, distinct.openSection name⟩
  | addComment inSection text =>
      obtain ⟨same, kept⟩ := builds.addComment inSection text
      refine ⟨kept, ?_⟩
      rw [step, same]
      exact distinct.update (fun entries nodup => Entries.nodup_names_put nodup _ _) inSection
  | addEntry inSection name entry =>
      obtain ⟨same, kept⟩ := builds.addEntry inSection name entry
      refine ⟨kept, ?_⟩
      rw [step, same]
      exact distinct.update (fun entries nodup => Entries.nodup_names_put nodup _ _) inSection
  | report d => exact ⟨counted, distinct⟩

/-- Whatever has been built has distinct names, by induction on the steps. -/
theorem run_distinct (steps : List BuilderStep) : Sections.Distinct (run steps).sections := by
  have kept (b : Builder) (counted : b.Counted) (distinct : Sections.Distinct b.sections)
      : Sections.Distinct (steps.foldl step b).sections := by
    induction steps generalizing b with
    | nil => exact distinct
    | cons action rest ih =>
        obtain ⟨stillCounted, stillDistinct⟩ := step_distinct counted distinct action
        exact ih (b.step action) stillCounted stillDistinct
  exact kept {} .new .nil

end Builder

-----------------------------------------------------------------------------------------
-- Storing sections again
-----------------------------------------------------------------------------------------

/-- Changed entries stored under their old distinct names are the changed section, by induction
from the last entry.
-/
theorem Entries.foldl_put (f : Entry → Entry) {entries : Entries}
    (distinct : entries.names.Nodup)
    : entries.foldl (fun (e : Entries) named => e.put named.1 (f named.2)) []
      = entries.mapValues f := by
  have stored (before after : Entries) (distinct : (Table.names (before ++ after)).Nodup)
      : after.foldl (fun (e : Entries) named => e.put named.1 (f named.2)) (before.mapValues f)
        = Table.mapValues f (before ++ after) := by
    induction after generalizing before with
    | nil => rw [List.append_nil]; rfl
    | cons named rest ih =>
        have absent : named.1 ∉ Table.names (before.mapValues f) := by
          rw [Table.names_mapValues]
          exact Table.not_mem_of_nodup_append distinct
        rw [List.foldl_cons, put_of_not_mem absent]
        have moved := ih (before ++ [named]) (by rwa [List.append_assoc])
        rw [Table.mapValues_append, List.append_assoc] at moved
        exact moved
  exact stored [] entries distinct

namespace Sections

/-- A section opened, and its entries stored again with a change. -/
def restore (f : Entry → Entry) (sections : Sections) (named : Text × Entries) : Sections :=
  named.2.foldl (fun s entry => s.update named.1 (·.put entry.1 (f entry.2)))
    (sections.openSection named.1)

/-- Sections with every entry changed. -/
def mapEntries (f : Entry → Entry) (sections : Sections) : Sections :=
  sections.mapValues (Table.mapValues f)

@[simp]
theorem mapEntries_cons (f : Entry → Entry) (named : Text × Entries) (rest : Sections)
    : mapEntries f (named :: rest) = (named.1, named.2.mapValues f) :: mapEntries f rest :=
  rfl

@[simp]
theorem mapEntries_id (sections : Sections) : sections.mapEntries id = sections := by
  have kept : Table.mapValues (id : Entry → Entry) = id := funext Table.mapValues_id
  rw [mapEntries, kept, Table.mapValues_id]

theorem Distinct.mapEntries {sections : Sections} (distinct : sections.Distinct)
    (f : Entry → Entry)
    : (sections.mapEntries f).Distinct where
  names := by
    rw [Sections.mapEntries, Table.names_mapValues]
    exact distinct.names
  entries := by
    intro changed member
    obtain ⟨named, before, rfl⟩ := List.mem_map.mp member
    have nodup : (Table.mapValues f named.2).names.Nodup := by
      rw [Table.names_mapValues]
      exact (distinct.entries named before).2
    exact ⟨trivial, nodup⟩

/-- Sections with distinct names, stored again one after the other, are the changed sections, by
induction from the last section.
-/
theorem foldl_restore (f : Entry → Entry) {sections : Sections} (distinct : sections.Distinct)
    : sections.foldl (restore f) [] = sections.mapEntries f := by
  have stored (before after : Sections) (distinct : Distinct (before ++ after))
      : after.foldl (restore f) (before.mapEntries f) = mapEntries f (before ++ after) := by
    induction after generalizing before with
    | nil => rw [List.append_nil]; rfl
    | cons named rest ih =>
        have absent : named.1 ∉ Table.names (before.mapEntries f) := by
          rw [mapEntries, Table.names_mapValues]
          exact Table.not_mem_of_nodup_append distinct.names
        have nodup : named.2.names.Nodup := (distinct.entries named (by simp)).2
        have last : restore f (before.mapEntries f) named
            = mapEntries f (before ++ [named]) := by
          rw [restore, openSection_of_not_mem absent, foldl_update_last absent,
            Entries.foldl_put f nodup, mapEntries, mapEntries, Table.mapValues_append]
          rfl
        rw [List.foldl_cons, last, ih _ (by rwa [List.append_assoc]), List.append_assoc]
        rfl
  exact stored [] sections distinct

end Sections

end LiveIni
