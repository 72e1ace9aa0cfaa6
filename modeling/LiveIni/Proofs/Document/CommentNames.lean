import LiveIni.Proofs.Document.Building

/-!
The names that a builder makes up for comments. Whatever has been done before, it is the first of
`Comment1`, `Comment2` and so on that the section does not use: counting only spares the builder the
search among names that are in use anyway. A section that is opened again is counted anew, and still
gets the same names.
-/

namespace LiveIni

namespace Builder

-----------------------------------------------------------------------------------------
-- The least free number
-----------------------------------------------------------------------------------------

/-- The number is the least, from one on, whose comment name is not in use. -/
structure IsLeastFree (entries : Entries) (n : Nat) : Prop where
  positive : 1 ≤ n
  free : commentName n ∉ entries.names
  least : ∀ k, 1 ≤ k → k < n → commentName k ∈ entries.names

theorem IsLeastFree.unique {entries : Entries} {m n : Nat} (left : IsLeastFree entries m)
    (right : IsLeastFree entries n)
    : m = n := by
  rcases Nat.lt_trichotomy m n with below | same | above
  · exact absurd (right.least m left.positive below) left.free
  · exact same
  · exact absurd (left.least n right.positive above) right.free

/-- The search from one on finds the least free number. -/
theorem isLeastFree_freeNumber (entries : Entries)
    : IsLeastFree entries (freeNumber entries (entries.length + 1) 1) where
  positive := start_le_freeNumber
  free := freeNumber_not_mem entries 1
  least := fun _ begun passed => mem_names_of_lt_freeNumber begun passed

/-- There is a free number among the first ones, one more than there are entries. -/
theorem IsLeastFree.le_length {entries : Entries} {n : Nat} (isLeast : IsLeastFree entries n)
    : n ≤ entries.length + 1 := by
  obtain ⟨k, least, most, free⟩ := exists_free entries 1
  have notBefore : ¬k < n := fun before => free (isLeast.least k least before)
  omega

-----------------------------------------------------------------------------------------
-- Steps without counts
-----------------------------------------------------------------------------------------

end Builder

/-- What a step of a builder does to sections without counts. -/
def Sections.step (sections : Sections) : BuilderStep → Sections
  | .openSection name => sections.openSection name
  | .addComment inSection text => sections.update inSection (·.add (.comment text))
  | .addEntry inSection name entry => sections.update inSection (·.put name entry)
  | .report _ => sections

namespace Builder

variable {b : Builder} {sections : Sections} {inSection : Text}

theorem Builds.step (builds : b.Builds sections) (action : BuilderStep)
    : (b.step action).Builds (sections.step action) := by
  cases action with
  | openSection name => exact builds.openSection name
  | addComment inSection text => exact builds.addComment inSection text
  | addEntry inSection name entry => exact builds.addEntry inSection name entry
  | report d => exact builds.report d

/-- A builder that goes on does to its sections what the same steps do without counts. -/
theorem Builds.steps (builds : b.Builds sections) (later : List BuilderStep)
    : (later.foldl Builder.step b).Builds (later.foldl Sections.step sections) :=
  builds.foldl fun action _ _ _ builds => builds.step action

theorem builds_run (steps : List BuilderStep) : (run steps).Builds (steps.foldl Sections.step []) :=
  Builds.new.steps steps

theorem run_append (steps later : List BuilderStep)
    : run (steps ++ later) = later.foldl step (run steps) :=
  List.foldl_append

-----------------------------------------------------------------------------------------
-- The names that are made up
-----------------------------------------------------------------------------------------

/-- With right counts, the next comment gets the least free number, which comes after the count. -/
theorem Counted.isLeastFree (counted : b.Counted) (inSection : Text)
    : IsLeastFree (b.entriesOf inSection) (b.nextNumber inSection) := by
  rw [counted.nextNumber]
  exact isLeastFree_freeNumber _

/-- A new comment stands last, under the name that the builder says. -/
theorem entriesOf_addComment (b : Builder) (inSection text : Text)
    : (b.addComment inSection text).1.entriesOf inSection
      = b.entriesOf inSection ++ [((b.addComment inSection text).2, .comment text)] := by
  have free : commentName (b.nextNumber inSection) ∉ (b.entriesOf inSection).names :=
    freeNumber_not_mem _ _
  unfold addComment
  dsimp only
  rw [← Table.set_of_not_mem free, entriesOf, Table.get?_set_self]
  rfl

/-- A key that takes the name of a comment stands last, and the comment stands in its place under
another name.
-/
theorem entriesOf_addEntry_comment (counted : b.Counted) {name text : Text} (kv : KeyValue)
    (found : (b.entriesOf inSection).get? name = some (.comment text))
    : (b.addEntry inSection name (.keyValue kv)).1.entriesOf inSection
      = (b.entriesOf inSection).map (fun named =>
          (if named.1 = name then commentName (b.nextNumber inSection) else named.1, named.2))
        ++ [(name, .keyValue kv)] := by
  have builds : b.Builds b.sections := ⟨rfl, counted⟩
  have sections := (builds.addEntry inSection name (.keyValue kv)).1
  have taken : (Sections.entriesOf b.sections inSection).takesName name (.keyValue kv) = true :=
    Entries.takesName_eq_true_iff.mpr ⟨rfl, _, found, rfl⟩
  have used : name ∈ (Sections.entriesOf b.sections inSection).names :=
    Table.mem_names_of_mem (Table.mem_of_get? found)
  change Sections.entriesOf _ inSection = _
  rw [sections, Sections.entriesOf_update, if_pos rfl, Entries.put, if_pos taken,
    Table.set_of_not_mem (Entries.not_mem_names_rename used), counted.nextNumber]
  rfl

/-- Builders with right counts and the same sections make up the same names. -/
theorem Builds.addComment_eq {c : Builder} (builds : b.Builds sections) (others : c.Builds sections)
    (inSection text : Text)
    : (b.addComment inSection text).2 = (c.addComment inSection text).2 := by
  change commentName (b.nextNumber inSection) = commentName (c.nextNumber inSection)
  rw [builds.2.nextNumber, others.2.nextNumber, builds.1, others.1]

/-- A section that is there already is not changed by being opened. -/
theorem Builds.reopen (builds : b.Builds sections) (there : inSection ∈ sections.names)
    : (b.openSection inSection).Builds sections := by
  have opened := builds.openSection inSection
  rwa [Sections.openSection, if_pos (Table.has_eq_true_iff.mpr there)] at opened

/-- Whatever sections have been opened, comments added and entries stored, under any names: the name
that a builder makes up for a new comment is the first that the section does not use, and so is the
one that it makes up for a comment whose name a key takes. The number of that name comes after the
count from which it is searched for, and is at most one more than there are entries, so that the
search ends. Opening a section again changes no section and no name that is made up later.
Witness: all numbers up to the count are in use, after every step.
-/
theorem run_makes_up_first_free_names (steps : List BuilderStep) (inSection : Text)
    : let b := run steps
      let entries := b.entriesOf inSection
      ∃ n, IsLeastFree entries n
        ∧ (b.counts.get? inSection).getD 0 < n ∧ n ≤ entries.length + 1
        ∧ (∀ text, (b.addComment inSection text).2 = commentName n
          ∧ (b.addComment inSection text).1.entriesOf inSection
            = entries ++ [(commentName n, .comment text)])
        ∧ (∀ name text kv, entries.get? name = some (.comment text) →
          (b.addEntry inSection name (.keyValue kv)).1.entriesOf inSection
            = entries.map (fun named =>
                (if named.1 = name then commentName n else named.1, named.2))
              ++ [(name, .keyValue kv)])
        ∧ (inSection ∈ Table.names b.sections → ∀ later,
          (run (steps ++ .openSection inSection :: later)).sections
            = (run (steps ++ later)).sections
          ∧ ∀ other text,
            ((run (steps ++ .openSection inSection :: later)).addComment other text).2
              = ((run (steps ++ later)).addComment other text).2) := by
  intro b entries
  have builds : b.Builds b.sections := ⟨rfl, (builds_run steps).2⟩
  have isLeast : IsLeastFree entries (b.nextNumber inSection) := builds.2.isLeastFree inSection
  refine ⟨b.nextNumber inSection, isLeast, ?_, isLeast.le_length, fun text => ⟨rfl, ?_⟩, ?_, ?_⟩
  · exact start_le_freeNumber
  · exact b.entriesOf_addComment inSection text
  · exact fun name text kv found => entriesOf_addEntry_comment builds.2 kv found
  · intro there later
    have again := (builds.reopen there).steps later
    have once := builds.steps later
    rw [run_append, run_append, List.foldl_cons]
    exact ⟨again.1.trans once.1.symm, fun other text => again.addComment_eq once other text⟩

/-- A key takes the second of three names, two of which are in use when the section is opened again,
and the comment gets the third, which the builder would else have made up next.
-/
theorem run_makes_up_first_free_names_secondTaken
    : let steps : List BuilderStep := [
        .addEntry ['s'] "Comment1".toList (.comment "; kept".toList),
        .addComment ['s'] "; moved".toList,
        .openSection ['s']]
      let kv : KeyValue := ⟨"Comment2".toList, ['1'], .integer .int32 1⟩
      ((run steps).entriesOf ['s']).get? "Comment2".toList = some (.comment "; moved".toList)
        ∧ ['s'] ∈ Table.names (run steps).sections
        ∧ ((run steps).addComment ['s'] "; next".toList).2 = "Comment3".toList
        ∧ ((run steps).addEntry ['s'] "Comment2".toList (.keyValue kv)).1.entriesOf ['s']
          = [("Comment1".toList, .comment "; kept".toList),
            ("Comment3".toList, .comment "; moved".toList), ("Comment2".toList, .keyValue kv)]
        ∧ (run (steps ++ [.openSection ['s'], .addComment ['s'] []])).sections
          = (run (steps ++ [.addComment ['s'] []])).sections := by
  intro steps kv
  have found : ((run steps).entriesOf ['s']).get? "Comment2".toList
      = some (.comment "; moved".toList) := by
    decide +kernel
  have there : ['s'] ∈ Table.names (run steps).sections := by decide +kernel
  have third : IsLeastFree ((run steps).entriesOf ['s']) 3 := by
    refine ⟨by decide, by decide +kernel, fun k least below => ?_⟩
    rcases (by omega : k = 1 ∨ k = 2) with rfl | rfl <;> decide +kernel
  obtain ⟨n, isLeast, _, _, comments, renames, reopened⟩ :=
    run_makes_up_first_free_names steps ['s']
  cases isLeast.unique third
  refine ⟨found, there, ?_, ?_, (reopened there _).1⟩
  · rw [(comments "; next".toList).1]
    decide +kernel
  · rw [renames _ _ kv found]
    decide +kernel

end Builder

end LiveIni
