import LiveIni.Document.Requirement
import LiveIni.Proofs.Document.Tables
import LiveIni.Proofs.Text.Cutting
import Mathlib.Data.List.Forall2

/-!
What requirements ask of a document. A text writes one requirement. The requirements are grouped by
their sections, and what a document lacks is read off the groups: that is nothing if and only if it
meets every requirement.
-/

namespace LiveIni

/-- What a document must have: a section, and perhaps a key in it. -/
structure Requirement where
  inSection : Text
  key? : Option Text
deriving DecidableEq, Repr

namespace Requirement

-----------------------------------------------------------------------------------------
-- Writing requirements
-----------------------------------------------------------------------------------------

/-- The text of a requirement is the name of a section without points, or a name of any sort and a
key without points, with a point in between.
-/
inductive Writes : Text → Requirement → Prop
  | whole {name : Text} (plain : '.' ∉ name) : Writes name ⟨name, none⟩
  | within (name : Text) {key : Text} (plain : '.' ∉ key)
    : Writes (name ++ '.' :: key) ⟨name, some key⟩

/-- The requirement that a text writes. -/
def ofText (spec : Text) : Requirement :=
  match Text.cutAtLast? '.' spec with
  | none => ⟨spec, none⟩
  | some (name, key) => ⟨name, some key⟩

theorem writes_ofText (spec : Text) : Writes spec (ofText spec) := by
  unfold ofText
  cases cut : Text.cutAtLast? '.' spec with
  | none => exact .whole (Text.cutAtLast?_eq_none_iff.mp cut)
  | some parts =>
      obtain ⟨rfl, plain⟩ := Text.cutAtLast?_eq_some_iff.mp cut
      exact .within parts.1 plain

theorem Writes.eq_ofText {spec : Text} {r : Requirement} (writes : Writes spec r)
    : r = ofText spec := by
  unfold ofText
  cases writes with
  | whole plain => rw [Text.cutAtLast?_eq_none_iff.mpr plain]
  | within name plain => rw [Text.cutAtLast?_eq_some_iff.mpr ⟨rfl, plain⟩]

/-- Each of some texts writes one requirement, and no other. -/
theorem forall₂_writes_iff {specs : List Text} {rs : List Requirement}
    : List.Forall₂ Writes specs rs ↔ rs = specs.map ofText := by
  constructor
  · intro writes
    induction writes with
    | nil => rfl
    | cons first _ ih => rw [List.map_cons, ← first.eq_ofText, ← ih]
  · rintro rfl
    exact List.forall₂_map_right_iff.mpr (List.forall₂_same.mpr fun spec _ => writes_ofText spec)

-----------------------------------------------------------------------------------------
-- Meeting requirements
-----------------------------------------------------------------------------------------

/-- The document has the section, and the key in it if there is one. A comment is no key. -/
def MetBy (r : Requirement) (d : Document) : Prop :=
  r.inSection ∈ d.sections.names
    ∧ ∀ key ∈ r.key?, ∃ kv, d.entry? r.inSection key = some (.keyValue kv)

theorem metBy_whole_iff {d : Document} {name : Text}
    : MetBy ⟨name, none⟩ d ↔ (d.sections.get? name).isNone = false := by
  rw [MetBy, ← Table.has_eq_true_iff, Table.has]
  simp

theorem metBy_within_iff {d : Document} {name key : Text}
    : MetBy ⟨name, some key⟩ d
      ↔ Requirements.hasKey ((d.sections.get? name).getD []) key = true := by
  unfold MetBy Requirements.hasKey Document.entry?
  rw [← Table.has_eq_true_iff, Table.has]
  cases d.sections.get? name with
  | none => simp [Table.get?]
  | some entries =>
      simp only [Option.isSome_some, true_and, Option.mem_def, Option.some.injEq, Option.bind_some,
        Option.getD_some, forall_eq']
      cases entries.get? key with
      | none => simp
      | some entry =>
          cases entry with
          | comment t => simp
          | keyValue kv => simp

instance (r : Requirement) (d : Document) : Decidable (r.MetBy d) :=
  match r with
  | ⟨_, none⟩ => decidable_of_iff _ metBy_whole_iff.symm
  | ⟨_, some _⟩ => decidable_of_iff _ metBy_within_iff.symm

/-- The keys that are required of a section, in the order of the requirements. -/
def keysIn (name : Text) (rs : List Requirement) : List Text :=
  rs.filterMap fun r => if r.inSection = name then r.key? else none

theorem mem_keysIn_iff {name key : Text} {rs : List Requirement}
    : key ∈ keysIn name rs ↔ ⟨name, some key⟩ ∈ rs := by
  rw [keysIn, List.mem_filterMap]
  constructor
  · rintro ⟨⟨inSection, key?⟩, member, keyed⟩
    split at keyed
    · next same =>
        cases same
        cases keyed
        exact member
    · cases keyed
  · intro member
    exact ⟨_, member, if_pos rfl⟩

/-- What the document lacks: in the order in which the sections are first required, each of them
that is missing, followed by the keys that are required of it and missing, as often as they are.
-/
def unmet (d : Document) (rs : List Requirement) : List Diagnostic :=
  (rs.map (·.inSection)).eraseDups.flatMap fun name =>
    (if MetBy ⟨name, none⟩ d then [] else [Requirements.missingSection name])
      ++ ((keysIn name rs).filter fun key => ¬ MetBy ⟨name, some key⟩ d).map
        (Requirements.missingKey name)

/-- A document lacks nothing if and only if it meets all requirements. -/
theorem unmet_eq_nil_iff {d : Document} {rs : List Requirement}
    : unmet d rs = [] ↔ ∀ r ∈ rs, r.MetBy d := by
  have sectionLacksNothing (name : Text)
      : (if MetBy ⟨name, none⟩ d then [] else [Requirements.missingSection name])
          ++ ((keysIn name rs).filter fun key => ¬ MetBy ⟨name, some key⟩ d).map
            (Requirements.missingKey name) = []
        ↔ MetBy ⟨name, none⟩ d ∧ ∀ key, ⟨name, some key⟩ ∈ rs → MetBy ⟨name, some key⟩ d := by
    simp [List.filter_eq_nil_iff, mem_keysIn_iff]
  simp only [unmet, List.flatMap_eq_nil_iff, List.mem_eraseDups, sectionLacksNothing]
  constructor
  · rintro lacksNothing ⟨name, key?⟩ member
    obtain ⟨whole, keys⟩ := lacksNothing name (List.mem_map_of_mem member)
    cases key? with
    | none => exact whole
    | some key => exact keys key member
  · intro met name required
    obtain ⟨r, member, rfl⟩ := List.mem_map.mp required
    exact ⟨⟨(met r member).1, by simp⟩, fun key => met _⟩

end Requirement

-----------------------------------------------------------------------------------------
-- Grouping requirements
-----------------------------------------------------------------------------------------

namespace Requirements

/-- The groups hold what is required: the sections in the order in which they are first required, and
of each the keys in order.
-/
structure Group (reqs : Requirements) (rs : List Requirement) : Prop where
  names : reqs.names = (rs.map (·.inSection)).eraseDups
  distinct : reqs.names.Nodup
  keys : ∀ name, (reqs.get? name).getD [] = Requirement.keysIn name rs

theorem add_eq_set (reqs : Requirements) (spec : Text)
    : reqs.add spec = reqs.set (Requirement.ofText spec).inSection
        ((reqs.get? (Requirement.ofText spec).inSection).getD []
          ++ (Requirement.ofText spec).key?.toList) := by
  unfold add Requirement.ofText
  cases Text.cutAtLast? '.' spec with
  | none => simp
  | some parts => rfl

/-- Adding a text adds what it requires: its section at the end, unless it was required before, and
its key after those of the section.
-/
theorem Group.add {reqs : Requirements} {rs : List Requirement} (group : Group reqs rs) (spec : Text)
    : Group (reqs.add spec) (rs ++ [Requirement.ofText spec]) := by
  rw [add_eq_set]
  generalize Requirement.ofText spec = r
  constructor
  · rw [Table.names_set, group.names, List.map_append, List.eraseDups_append]
    simp only [List.mem_eraseDups, List.map_cons, List.map_nil]
    generalize rs.map (·.inSection) = earlier
    split
    · next before => simp [List.removeAll, before]
    · next new => simp [List.removeAll, new, List.eraseDups_cons]
  · exact Table.nodup_names_set group.distinct _
  · intro name
    rw [Requirement.keysIn, List.filterMap_append, ← Requirement.keysIn, ← group.keys name]
    by_cases same : r.inSection = name
    · subst same
      rw [Table.get?_set_self]
      cases keyed : r.key? <;> simp [keyed]
    · rw [Table.get?_set_of_ne (Ne.symm same)]
      simp [same]

theorem Group.foldl_add {reqs : Requirements} {rs : List Requirement} (group : Group reqs rs)
    (specs : List Text)
    : Group (specs.foldl Requirements.add reqs) (rs ++ specs.map Requirement.ofText) := by
  induction specs generalizing reqs rs with
  | nil => simpa using group
  | cons spec rest ih => simpa using ih (group.add spec)

theorem group_ofTexts (specs : List Text)
    : Group (ofTexts specs) (specs.map Requirement.ofText) :=
  have none : Group [] [] := ⟨rfl, List.nodup_nil, fun _ => rfl⟩
  none.foldl_add specs

theorem sectionGaps_eq (d : Document) (name : Text) (keys : List Text)
    : sectionGaps d name keys
      = (if Requirement.MetBy ⟨name, none⟩ d then [] else [missingSection name])
        ++ (keys.filter fun key => ¬ Requirement.MetBy ⟨name, some key⟩ d).map
          (missingKey name) := by
  unfold sectionGaps
  simp only [Requirement.metBy_whole_iff, Requirement.metBy_within_iff]
  cases d.sections.get? name <;> simp

/-- What a document lacks of the groups is what it lacks of the requirements in them. -/
theorem Group.gaps_eq {reqs : Requirements} {rs : List Requirement} (group : Group reqs rs)
    (d : Document)
    : reqs.gaps d = Requirement.unmet d rs := by
  have perSection : reqs.gaps d
      = reqs.names.flatMap fun name => sectionGaps d name ((reqs.get? name).getD []) := by
    rw [gaps, Table.names, List.flatMap_map, List.flatMap_def, List.flatMap_def]
    refine congrArg List.flatten (List.map_congr_left fun entry member => ?_)
    rw [Table.get?_of_mem group.distinct member]
    rfl
  rw [perSection, group.names]
  simp only [group.keys, sectionGaps_eq]
  rfl

end Requirements

end LiveIni
