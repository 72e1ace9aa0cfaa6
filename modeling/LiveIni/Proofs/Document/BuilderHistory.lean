import LiveIni.Proofs.Document.Additions

/-!
What a builder keeps of its history. After any openings of sections, comments and keys, in any
order and under any names, every section records all that was added to it, and the builder has
said of every key whether it was there before.
-/

namespace LiveIni

namespace Entries

variable {entries : Entries} {added : List Entry}

/-- What stands under a key's own name is the last value that was added for it. -/
theorem Records.get?_eq_some_iff (records : entries.Records added) {key : Text} {kv : KeyValue}
    : entries.get? key = some (.keyValue kv) ↔ Entry.lastFor key added = some kv := by
  constructor
  · intro found
    have member := Table.mem_of_get? found
    have same : key = kv.key := records.own _ member kv.key rfl
    rw [same]
    exact (records.last kv).mp (List.mem_map_of_mem member)
  · intro last
    have same := Entry.key_of_lastFor last
    subst same
    obtain ⟨⟨name, entry⟩, member, isKey⟩ := List.mem_map.mp ((records.last kv).mpr last)
    cases isKey
    obtain rfl : name = kv.key := records.own _ member kv.key rfl
    exact Table.get?_of_mem records.distinct member

/-- A key that stands under its own name has been added, and the other way round. -/
theorem Records.get?_isKey_iff (records : entries.Records added) (key : Text)
    : (∃ held, entries.get? key = some (.keyValue held)) ↔ .key key ∈ added.map Entry.mark := by
  rw [← Entry.isSome_lastFor_iff, Option.isSome_iff_exists]
  exact exists_congr fun _ => records.get?_eq_some_iff

end Entries

-----------------------------------------------------------------------------------------
-- Whether a key is new
-----------------------------------------------------------------------------------------

namespace Builder

variable {b : Builder} {inSection : Text}

theorem entriesOf_renameComment (b : Builder) (inSection name : Text)
    : (b.renameComment inSection name).entriesOf inSection
      = (b.entriesOf inSection).map fun named =>
          (if named.1 = name then commentName (b.nextNumber inSection) else named.1, named.2) := by
  unfold renameComment Builder.entriesOf
  rw [Table.get?_set_self]
  rfl

/-- A name that a comment has given up is free: the comment's new name is one that was not in
use.
-/
theorem not_has_renameComment {name : Text} (used : name ∈ (b.entriesOf inSection).names)
    : ((b.renameComment inSection name).entriesOf inSection).has name = false := by
  refine Bool.eq_false_iff.mpr fun has => ?_
  rw [entriesOf_renameComment, Table.has_eq_true_iff, Table.names, List.map_map] at has
  obtain ⟨named, _, same⟩ := List.mem_map.mp has
  change (if named.1 = name then commentName (b.nextNumber inSection) else named.1) = name at same
  split at same
  · have free := freeNumber_not_mem (b.entriesOf inSection)
      ((b.counts.get? inSection).getD 0 + 1)
    exact free (same ▸ used)
  · next other => exact other same

/-- The builder says of a key that it is not new exactly if the section has the key. A comment of
that name does not count, since it makes room first.
-/
theorem addEntry_eq_false_iff (b : Builder) (inSection : Text) (kv : KeyValue)
    : (b.addEntry inSection kv.key (.keyValue kv)).2 = false
      ↔ ∃ held, (b.entriesOf inSection).get? kv.key = some (.keyValue held) := by
  unfold addEntry
  dsimp only
  rw [Bool.not_eq_false']
  cases found : (b.entriesOf inSection).get? kv.key with
  | none =>
      have kept : b.takesName inSection kv.key (.keyValue kv) = false := by
        unfold takesName
        rw [found]
      rw [kept, if_neg Bool.false_ne_true, Table.has, found]
      simp
  | some entry =>
      cases entry with
      | comment text =>
          have taken : b.takesName inSection kv.key (.keyValue kv) = true := by
            unfold takesName
            rw [found]
          have used := Table.mem_names_of_mem (Table.mem_of_get? found)
          rw [taken, if_pos rfl, not_has_renameComment used]
          simp
      | keyValue held =>
          have kept : b.takesName inSection kv.key (.keyValue kv) = false := by
            unfold takesName
            rw [found]
          rw [kept, if_neg Bool.false_ne_true, Table.has, found]
          simp

end Builder

-----------------------------------------------------------------------------------------
-- Histories
-----------------------------------------------------------------------------------------

/-- What can be done to a builder when keys are stored under themselves. -/
inductive KeyedStep where
  | openSection (name : Text)
  | addComment (inSection text : Text)
  | addKey (inSection : Text) (kv : KeyValue)

namespace KeyedStep

def toStep : KeyedStep → BuilderStep
  | openSection name => .openSection name
  | addComment inSection text => .addComment inSection text
  | addKey inSection kv => .addEntry inSection kv.key (.keyValue kv)

/-- The entry that a step adds to a section, if it adds one. -/
def added? (name : Text) : KeyedStep → Option Entry
  | openSection _ => none
  | addComment inSection text => if inSection = name then some (.comment text) else none
  | addKey inSection kv => if inSection = name then some (.keyValue kv) else none

/-- What a step does to the sections. -/
def act (sections : Sections) : KeyedStep → Sections
  | openSection name => sections.openSection name
  | addComment inSection text => sections.update inSection (·.add (.comment text))
  | addKey inSection kv => sections.update inSection (·.add (.keyValue kv))

/-- In a section a step does nothing but add its entry. -/
theorem entriesOf_act (sections : Sections) (step : KeyedStep) (name : Text)
    : (act sections step).entriesOf name
      = (step.added? name).toList.foldl Entries.add (sections.entriesOf name) := by
  cases step with
  | openSection opened => exact sections.entriesOf_openSection opened name
  | addComment inSection text => exact sections.entriesOf_update_add inSection _ name
  | addKey inSection kv => exact sections.entriesOf_update_add inSection _ name

end KeyedStep

namespace Builder

/-- A new builder after some steps that store keys under themselves. -/
def runKeyed (steps : List KeyedStep) : Builder :=
  run (steps.map KeyedStep.toStep)

theorem builds_runKeyed (steps : List KeyedStep)
    : (runKeyed steps).Builds (steps.foldl KeyedStep.act []) := by
  unfold runKeyed run
  rw [List.foldl_map]
  refine Builds.new.foldl fun step _ b sections builds => ?_
  cases step with
  | openSection name => exact builds.openSection name
  | addComment inSection text => exact builds.addComment inSection text
  | addKey inSection kv => exact builds.addEntry inSection kv.key (.keyValue kv)

/-- Every section records what the steps have added to it. -/
theorem records_runKeyed (steps : List KeyedStep) (name : Text)
    : (Sections.entriesOf (runKeyed steps).build.sections name).Records
        (steps.filterMap (·.added? name)) := by
  have sections : (runKeyed steps).build.sections = steps.foldl KeyedStep.act [] :=
    (builds_runKeyed steps).1
  rw [sections, Sections.entriesOf_foldl fun sections step => step.entriesOf_act sections name]
  exact Entries.records_ofList _

theorem mem_marks_added {steps : List KeyedStep} {name key : Text}
    : .key key ∈ (steps.filterMap (·.added? name)).map Entry.mark
      ↔ ∃ kv, .addKey name kv ∈ steps ∧ kv.key = key := by
  rw [List.mem_map]
  constructor
  · rintro ⟨entry, member, isKey⟩
    obtain ⟨step, inSteps, adds⟩ := List.mem_filterMap.mp member
    cases step with
    | openSection _ => cases adds
    | addComment inSection text =>
        rw [KeyedStep.added?, Option.ite_none_right_eq_some] at adds
        rw [← Option.some.inj adds.2] at isKey
        cases isKey
    | addKey inSection kv =>
        rw [KeyedStep.added?, Option.ite_none_right_eq_some] at adds
        obtain ⟨rfl, same⟩ := adds
        rw [← Option.some.inj same] at isKey
        exact ⟨kv, inSteps, Mark.key.inj isKey⟩
  · rintro ⟨kv, member, rfl⟩
    exact ⟨.keyValue kv, List.mem_filterMap.mpr ⟨_, member, if_pos rfl⟩, rfl⟩

/-- However sections are opened, comments added and keys stored under themselves, the document that
is built has distinct sections, and each of them has distinct names, every key under itself with
the value that was added last, all comments in the order of their calls, and everything in the
order in which it first came. A key that is added after that is said not to be new exactly if
the section has it by then, which is so exactly if it was added to the section before.
Witness: storing an entry puts it last or changes the value of its key in place, whatever names
comments have to give up.
-/
theorem runKeyed_keeps_history (steps : List KeyedStep)
    : (runKeyed steps).build.sections.names.Nodup
      ∧ (∀ name, (Sections.entriesOf (runKeyed steps).build.sections name).Records
          (steps.filterMap (·.added? name)))
      ∧ ∀ inSection kv,
        (((runKeyed steps).addEntry inSection kv.key (.keyValue kv)).2 = false
          ↔ ∃ held, (Sections.entriesOf (runKeyed steps).build.sections inSection).get? kv.key
              = some (.keyValue held))
        ∧ (((runKeyed steps).addEntry inSection kv.key (.keyValue kv)).2 = false
          ↔ ∃ held, .addKey inSection held ∈ steps ∧ held.key = kv.key) := by
  refine ⟨(run_distinct _).names, records_runKeyed steps, fun inSection kv => ?_⟩
  have answer := addEntry_eq_false_iff (runKeyed steps) inSection kv
  have held := (records_runKeyed steps inSection).get?_isKey_iff kv.key
  exact ⟨answer, answer.trans (held.trans mem_marks_added)⟩

/-- A key that is named like a comment takes the name away from it, and the comment stays. -/
example :
    ((runKeyed [
      .addComment ['s'] "; one".toList,
      .addKey ['s'] ⟨"Comment1".toList, ['1'], .integer .int32 1⟩,
      .openSection ['s'],
      .addComment ['s'] "; two".toList]).build.sections.map fun named => named.2.map fun pair =>
        (pair.1, pair.2.comment?))
      = [[
        ("Comment2".toList, some "; one".toList),
        ("Comment1".toList, none),
        ("Comment3".toList, some "; two".toList)]] := by
  decide +kernel

end Builder

end LiveIni
