import LiveIni.Proofs.Document.Building
import LiveIni.Proofs.Document.Writing
import Mathlib.Data.List.Induction

/-!
What a section holds of all that has been added to it: every comment, in order, and every key in
the place where it first came, with its last value. Names that were taken from comments on the
way leave no trace.
-/

namespace LiveIni

/-- What a line contributes to a document, but for the value of its key. -/
inductive Mark where
  | header (name : Text)
  | comment (text : Text)
  | key (key : Text)
  | malformed (text : Text)
deriving DecidableEq, Repr

namespace Mark

def isKey : Mark → Bool
  | key _ => true
  | _ => false

/-- The marks without the repetitions of keys. -/
def firsts : List Mark → List Mark
  | [] => []
  | mark :: rest => mark :: (firsts rest).filter fun other => other ≠ mark || !other.isKey

/-- A mark comes last among the first ones, unless it repeats a key, by induction on the marks. -/
theorem firsts_concat (marks : List Mark) (mark : Mark)
    : firsts (marks ++ [mark])
      = if mark.isKey ∧ mark ∈ marks then firsts marks else firsts marks ++ [mark] := by
  induction marks with
  | nil => simp [firsts]
  | cons first rest ih =>
      rw [List.cons_append, firsts, firsts, ih]
      by_cases isKey : mark.isKey = true
      · by_cases later : mark ∈ rest
        · simp [isKey, later]
        · by_cases same : mark = first
          · subst same
            simp [isKey, later]
          · simp [isKey, later, same]
      · simp [isKey]

end Mark

namespace Line

/-- The mark of a line; a blank one has none. -/
def mark? : Line → Option Mark
  | blank => none
  | header name => some (.header name)
  | comment text => some (.comment text)
  | keyValue key _ => some (.key key)
  | malformed text => some (.malformed text)

end Line

namespace Entry

def mark : Entry → Mark
  | comment text => .comment text
  | keyValue kv => .key kv.key

theorem mark?_line (entry : Entry) : entry.line.mark? = some entry.mark := by
  cases entry <;> rfl

/-- The last value that has been added for a key. -/
def lastFor (key : Text) (added : List Entry) : Option KeyValue :=
  ((added.filterMap keyValue?).filter (·.key = key)).getLast?

variable {added : List Entry} {key : Text}

@[simp]
theorem lastFor_concat_comment (text : Text)
    : lastFor key (added ++ [.comment text]) = lastFor key added := by
  rw [lastFor, List.filterMap_append]
  exact congrArg _ (congrArg _ (List.append_nil _))

theorem lastFor_concat_keyValue (kv : KeyValue)
    : lastFor key (added ++ [.keyValue kv]) = if kv.key = key then some kv else lastFor key added := by
  have single : [keyValue kv].filterMap keyValue? = [kv] := rfl
  rw [lastFor, List.filterMap_append, single, List.filter_append]
  split
  · next same => rw [List.filter_cons_of_pos (by simpa using same), List.filter_nil,
      List.getLast?_concat]
  · next other => rw [List.filter_cons_of_neg (by simpa using other), List.filter_nil,
      List.append_nil, lastFor]

theorem lastFor_append (before after : List Entry)
    : lastFor key (before ++ after) = (lastFor key after).or (lastFor key before) := by
  rw [lastFor, List.filterMap_append, List.filter_append, List.getLast?_append]
  rfl

/-- A key has a last value if it has been added at all. -/
theorem isSome_lastFor_iff : (lastFor key added).isSome ↔ .key key ∈ added.map mark := by
  induction added using List.reverseRecOn with
  | nil => simp [lastFor]
  | append_singleton before entry ih =>
      cases entry with
      | comment text => simp [ih, mark]
      | keyValue kv =>
          rw [lastFor_concat_keyValue]
          by_cases same : kv.key = key
          · simp [same, mark]
          · simp [same, ih, mark, Ne.symm same]

/-- The value that was added last is one for the key. -/
theorem key_of_lastFor {kv : KeyValue} (last : lastFor key added = some kv) : kv.key = key := by
  have member := List.mem_of_getLast? last
  exact of_decide_eq_true (List.mem_filter.mp member).2

end Entry

-----------------------------------------------------------------------------------------
-- One section
-----------------------------------------------------------------------------------------

namespace Entries

/-- What a section holds of the entries that have been added to it one after the other. -/
structure Records (entries : Entries) (added : List Entry) : Prop where
  distinct : entries.names.Nodup
  own : entries.OwnKeys
  last : ∀ kv, .keyValue kv ∈ entries.map Prod.snd ↔ Entry.lastFor kv.key added = some kv
  comments : entries.comments = added.filterMap Entry.comment?
  order : entries.map (·.2.mark) = Mark.firsts (added.map Entry.mark)

variable {entries : Entries} {added : List Entry}

theorem Records.nil : Records [] [] where
  distinct := List.nodup_nil
  own := Filled.nil.own
  last := by simp [Entry.lastFor]
  comments := rfl
  order := rfl

/-- A section holds a key exactly if it has been added. -/
theorem Records.holds_iff (records : entries.Records added) {key : Text}
    : (∃ named ∈ entries, named.2.key? = some key) ↔ .key key ∈ added.map Entry.mark := by
  rw [← Entry.isSome_lastFor_iff, Option.isSome_iff_exists]
  constructor
  · rintro ⟨⟨name, entry⟩, member, holds⟩
    cases entry with
    | comment text => cases holds
    | keyValue kv =>
        cases holds
        exact ⟨kv, (records.last kv).mp (List.mem_map.mpr ⟨_, member, rfl⟩)⟩
  · rintro ⟨kv, last⟩
    have same := Entry.key_of_lastFor last
    subst same
    obtain ⟨named, member, isKey⟩ := List.mem_map.mp ((records.last kv).mpr last)
    exact ⟨named, member, isKey ▸ rfl⟩

theorem comments_eq (entries : Entries)
    : entries.comments = (entries.map Prod.snd).filterMap Entry.comment? := by
  rw [Entries.comments, List.filterMap_map]
  rfl

theorem marks_eq (entries : Entries)
    : entries.map (·.2.mark) = (entries.map Prod.snd).map Entry.mark := by
  rw [List.map_map]
  rfl

/-- A value that changes in its place changes neither comments nor marks. -/
theorem revalue_keeps (kv : KeyValue) (entry : Entry)
    : (revalue kv entry).comment? = entry.comment? ∧ (revalue kv entry).mark = entry.mark := by
  unfold revalue
  split
  · next same =>
      cases entry with
      | comment text => cases same
      | keyValue old => exact ⟨rfl, congrArg Mark.key (Option.some.inj same).symm⟩
  · exact ⟨rfl, rfl⟩

/-- An entry that comes last is recorded last. -/
theorem Records.concat {next : Entries} {entry : Entry} (records : entries.Records added)
    (distinct : next.names.Nodup) (own : next.OwnKeys)
    (fresh : ∀ key, entry.key? = some key → ∀ named ∈ entries, named.2.key? ≠ some key)
    (values : next.map Prod.snd = entries.map Prod.snd ++ [entry])
    : next.Records (added ++ [entry]) where
  distinct := distinct
  own := own
  last kv := by
    rw [values, List.mem_append, List.mem_singleton, records.last]
    cases entry with
    | comment text => simp
    | keyValue new =>
        rw [Entry.lastFor_concat_keyValue]
        split
        · next same =>
            have absent : ¬ Entry.lastFor kv.key added = some kv := fun last => by
              obtain ⟨named, member, isKey⟩ := List.mem_map.mp ((records.last kv).mpr last)
              exact fresh new.key rfl named member (by rw [isKey, same]; rfl)
            rw [or_iff_right absent, Entry.keyValue.injEq, Option.some.injEq, eq_comm]
        · next other =>
            refine or_iff_left fun same => other ?_
            rw [Entry.keyValue.inj same]
  comments := by
    rw [comments_eq, values, List.filterMap_append, ← comments_eq, records.comments,
      List.filterMap_append]
  order := by
    have unrepeated : ¬ (entry.mark.isKey ∧ entry.mark ∈ added.map Entry.mark) := by
      rintro ⟨isKey, repeats⟩
      cases entry with
      | comment text => cases isKey
      | keyValue new =>
          obtain ⟨named, member, holds⟩ := records.holds_iff.mpr repeats
          exact fresh new.key rfl named member holds
    rw [marks_eq, values, List.map_append, ← marks_eq, records.order, List.map_append,
      List.map_singleton, Mark.firsts_concat, if_neg unrepeated]

/-- A value that changes in its place is recorded there. -/
theorem Records.revalue {next : Entries} {kv : KeyValue} (records : entries.Records added)
    (distinct : next.names.Nodup) (own : next.OwnKeys)
    (held : ∃ named ∈ entries, named.2.key? = some kv.key)
    (changed : next = entries.mapValues (revalue kv))
    : next.Records (added ++ [.keyValue kv]) := by
  have values : next.map Prod.snd = (entries.map Prod.snd).map (Entries.revalue kv) := by
    rw [changed, Table.mapValues, List.map_map, List.map_map]
    rfl
  refine ⟨distinct, own, fun other => ?_, ?_, ?_⟩
  · rw [values, Entry.lastFor_concat_keyValue, List.mem_map]
    split
    · next same =>
        rw [Option.some.injEq]
        constructor
        · rintro ⟨entry, _, isOther⟩
          have hasKey : entry.key? = some kv.key := by
            rw [← revalue_keepsKeys kv entry, isOther, same]
            rfl
          rw [Entries.revalue, if_pos hasKey] at isOther
          exact Entry.keyValue.inj isOther
        · rintro rfl
          obtain ⟨named, member, hasKey⟩ := held
          exact ⟨named.2, List.mem_map_of_mem member, if_pos hasKey⟩
    · next different =>
        rw [← records.last]
        constructor
        · rintro ⟨entry, member, isOther⟩
          have otherKey : ¬ entry.key? = some kv.key := fun hasKey => different (by
            rw [Entries.revalue, if_pos hasKey] at isOther
            rw [Entry.keyValue.inj isOther])
          rw [Entries.revalue, if_neg otherKey] at isOther
          exact isOther ▸ member
        · intro member
          exact ⟨_, member, if_neg fun same => different (Option.some.inj same).symm⟩
  · have same : (fun entry => (Entries.revalue kv entry).comment?) = Entry.comment? :=
      funext fun entry => (revalue_keeps kv entry).1
    rw [comments_eq, values, List.filterMap_map]
    change (entries.map Prod.snd).filterMap (fun entry => (Entries.revalue kv entry).comment?) = _
    rw [same, ← comments_eq, records.comments, List.filterMap_append]
    exact (List.append_nil _).symm
  · have same : Entry.mark ∘ Entries.revalue kv = Entry.mark :=
      funext fun entry => (revalue_keeps kv entry).2
    have repeats : Entry.mark (.keyValue kv) ∈ added.map Entry.mark := records.holds_iff.mp held
    rw [marks_eq, values, List.map_map, same, ← marks_eq, records.order, List.map_append,
      List.map_singleton, Mark.firsts_concat, if_pos ⟨rfl, repeats⟩]

theorem Records.add (records : entries.Records added) (entry : Entry)
    : (entries.add entry).Records (added ++ [entry]) := by
  have distinct := nodup_names_put records.distinct (entries.nameFor entry) entry
  have own := records.own.add records.distinct entry
  rcases values_add records.distinct records.own entry with
    ⟨fresh, values⟩ | ⟨kv, rfl, held, changed⟩
  · exact records.concat distinct own fresh values
  · exact records.revalue distinct own held changed

/-- A section records what fills it, by induction from the last entry. -/
theorem records_ofList (added : List Entry) : (ofList added).Records added := by
  induction added using List.reverseRecOn with
  | nil => exact .nil
  | append_singleton before entry ih =>
      rw [ofList, List.foldl_append]
      exact ih.add entry

end Entries

-----------------------------------------------------------------------------------------
-- All sections
-----------------------------------------------------------------------------------------

namespace Sections

/-- An entry that is added to a section is added to no other. -/
theorem entriesOf_update_add (sections : Sections) (inSection : Text) (entry : Entry)
    (name : Text)
    : (sections.update inSection (·.add entry)).entriesOf name
      = (if inSection = name then some entry else none).toList.foldl Entries.add
          (sections.entriesOf name) := by
  rw [entriesOf_update]
  by_cases same : inSection = name
  · rw [if_pos same.symm, if_pos same, same]
    rfl
  · rw [if_neg (Ne.symm same), if_neg same]
    rfl

/-- Items that each add at most one entry to a section fill it with these entries in order, by
induction on the items.
-/
theorem entriesOf_foldl {α : Type} {act : Sections → α → Sections} {name : Text}
    {added? : α → Option Entry}
    (acts : ∀ sections a, entriesOf (act sections a) name
      = (added? a).toList.foldl Entries.add (sections.entriesOf name))
    (items : List α) (sections : Sections)
    : entriesOf (items.foldl act sections) name
      = (items.filterMap added?).foldl Entries.add (sections.entriesOf name) := by
  induction items generalizing sections with
  | nil => rfl
  | cons item rest ih =>
      rw [List.foldl_cons, ih, acts, List.filterMap_cons]
      cases added? item <;> rfl

end Sections

end LiveIni
