import LiveIni.Proofs.Document.Numbering

/-!
Storing entries in one section, without counts. A comment takes the first free made-up name. A
key takes its own name, and if that is the name of a comment, the comment takes the free one.
A section that has been filled in this way is filled alike by its own entries in their order.
-/

namespace LiveIni

/-- The key of an entry that is no comment. -/
def Entry.key? : Entry → Option Text
  | comment _ => none
  | keyValue kv => some kv.key

/-- A change of entries that leaves comments comments, and keys the same keys. -/
def Entry.KeepsKeys (f : Entry → Entry) : Prop :=
  ∀ entry, (f entry).key? = entry.key?

namespace Entries

/-- The entries with the free name in the place of another one. -/
def rename (entries : Entries) (old : Text) : Entries :=
  entries.map fun (name, entry) => (if name = old then entries.freeName else name, entry)

/-- Whether storing an entry takes the name of a comment away. -/
def takesName (entries : Entries) (name : Text) (entry : Entry) : Bool :=
  entry.key?.isSome && (entries.get? name).any (·.key?.isNone)

/-- Stores an entry under a name. -/
def put (entries : Entries) (name : Text) (entry : Entry) : Entries :=
  Table.set name entry (if entries.takesName name entry then entries.rename name else entries)

theorem names_rename (entries : Entries) (old : Text)
    : (entries.rename old).names
      = entries.names.map fun name => if name = old then entries.freeName else name := by
  rw [rename, Table.names, Table.names, List.map_map, List.map_map]
  rfl

/-- A name that is replaced is gone. -/
theorem not_mem_names_rename {entries : Entries} {old : Text} (used : old ∈ entries.names)
    : old ∉ (entries.rename old).names := by
  intro kept
  rw [names_rename] at kept
  obtain ⟨name, member, same⟩ := List.mem_map.mp kept
  split at same
  · exact entries.freeName_not_mem (same ▸ used)
  · next other => exact other same

/-- Replacing a name by the free one keeps names distinct. -/
theorem nodup_names_rename {entries : Entries} (distinct : entries.names.Nodup) (old : Text)
    : (entries.rename old).names.Nodup := by
  rw [names_rename]
  refine List.pairwise_map.mpr (distinct.imp_of_mem fun {a b} inLeft inRight different => ?_)
  have free := entries.freeName_not_mem
  split
  · next isOld =>
      split
      · next same => exact absurd (isOld.trans same.symm) different
      · exact fun same => free (same ▸ inRight)
  · split
    · exact fun same => free (same ▸ inLeft)
    · exact different

/-- A name is taken away from a comment that has it. -/
theorem takesName_eq_true_iff {entries : Entries} {name : Text} {entry : Entry}
    : entries.takesName name entry = true
      ↔ entry.key?.isSome ∧ ∃ comment, entries.get? name = some comment ∧ comment.key? = none := by
  rw [takesName, Bool.and_eq_true, Option.any_eq_true]
  simp only [Option.isNone_iff_eq_none]

/-- What storing an entry does: a new name comes last, a name of a comment does as well after the
comment has got the free one, and in all other cases the entry changes in its place.
-/
theorem put_cases (entries : Entries) (name : Text) (entry : Entry)
    : (name ∉ entries.names ∧ entries.put name entry = entries ++ [(name, entry)])
      ∨ (entries.takesName name entry = true
        ∧ entries.put name entry = entries.rename name ++ [(name, entry)])
      ∨ (name ∈ entries.names ∧ entries.takesName name entry = false
        ∧ entries.put name entry = Table.set name entry entries) := by
  unfold put
  cases taken : entries.takesName name entry with
  | true =>
      obtain ⟨_, comment, found, _⟩ := takesName_eq_true_iff.mp taken
      have used : name ∈ entries.names := Table.mem_names_of_mem (Table.mem_of_get? found)
      refine .inr (.inl ⟨rfl, ?_⟩)
      rw [if_pos rfl, Table.set_of_not_mem (not_mem_names_rename used)]
  | false =>
      rw [if_neg Bool.false_ne_true]
      by_cases used : name ∈ entries.names
      · exact .inr (.inr ⟨used, rfl, rfl⟩)
      · exact .inl ⟨used, Table.set_of_not_mem used entry⟩

theorem put_of_not_mem {entries : Entries} {name : Text} (absent : name ∉ entries.names)
    (entry : Entry)
    : entries.put name entry = entries ++ [(name, entry)] := by
  rcases entries.put_cases name entry with ⟨_, stored⟩ | ⟨taken, _⟩ | ⟨used, _⟩
  · exact stored
  · obtain ⟨_, comment, found, _⟩ := takesName_eq_true_iff.mp taken
    exact absurd (Table.mem_names_of_mem (Table.mem_of_get? found)) absent
  · exact absurd used absent

theorem nodup_names_put {entries : Entries} (distinct : entries.names.Nodup) (name : Text)
    (entry : Entry)
    : (entries.put name entry).names.Nodup := by
  unfold put
  split
  · exact Table.nodup_names_set (nodup_names_rename distinct name) entry
  · exact Table.nodup_names_set distinct entry

/-- Storing adds a name, and takes none away. -/
theorem mem_names_put {entries : Entries} {other : Text} (name : Text) (entry : Entry)
    (used : other = name ∨ other ∈ entries.names)
    : other ∈ (entries.put name entry).names := by
  unfold put
  rw [Table.mem_names_set]
  rcases Decidable.em (other = name) with same | different
  · exact .inl same
  · have member := used.resolve_left different
    refine .inr ?_
    split
    · rw [names_rename]
      exact List.mem_map.mpr ⟨other, member, if_neg different⟩
    · exact member

/-- Every entry of a section was there before, under this name or another, or it is the one that
was stored.
-/
theorem mem_of_mem_put {entries : Entries} {name : Text} {entry : Entry} {named : Text × Entry}
    (member : named ∈ entries.put name entry)
    : named = (name, entry) ∨ ∃ old, (old, named.2) ∈ entries := by
  unfold put at member
  refine (Table.mem_of_mem_set member).imp_right fun kept => ?_
  split at kept
  · obtain ⟨before, inEntries, rfl⟩ := List.mem_map.mp kept
    exact ⟨before.1, inEntries⟩
  · exact ⟨named.1, kept⟩

-----------------------------------------------------------------------------------------
-- Adding an entry under the name that it takes
-----------------------------------------------------------------------------------------

/-- The name that an entry takes when it is added. -/
def nameFor (entries : Entries) (entry : Entry) : Text :=
  entry.key?.getD entries.freeName

def add (entries : Entries) (entry : Entry) : Entries :=
  entries.put (entries.nameFor entry) entry

/-- The section that is filled by the given entries in their order. -/
def ofList (entries : List Entry) : Entries :=
  entries.foldl add []

/-- Every key stands under itself. -/
def OwnKeys (entries : Entries) : Prop :=
  ∀ named ∈ entries, ∀ key, named.2.key? = some key → named.1 = key

/-- Adding keeps every key under itself. The one name that is replaced belongs to a comment, and
to nothing else where names are distinct.
-/
theorem OwnKeys.add {entries : Entries} (own : entries.OwnKeys) (distinct : entries.names.Nodup)
    (entry : Entry)
    : (entries.add entry).OwnKeys := by
  have added (key : Text) (hasKey : entry.key? = some key) : entries.nameFor entry = key := by
    rw [nameFor, hasKey]
    rfl
  intro named member key hasKey
  rcases entries.put_cases (entries.nameFor entry) entry with
    ⟨_, stored⟩ | ⟨taken, stored⟩ | ⟨_, _, stored⟩
  · rw [Entries.add, stored, List.mem_append, List.mem_singleton] at member
    rcases member with old | rfl
    · exact own named old key hasKey
    · exact added key hasKey
  · rw [Entries.add, stored, List.mem_append, List.mem_singleton] at member
    rcases member with old | rfl
    · obtain ⟨before, inEntries, rfl⟩ := List.mem_map.mp old
      obtain ⟨_, comment, found, noKey⟩ := takesName_eq_true_iff.mp taken
      -- An entry with a key does not stand under the name that is replaced.
      have different : before.1 ≠ entries.nameFor entry := by
        intro same
        have holds := Table.get?_of_mem distinct inEntries
        rw [same, found] at holds
        cases holds
        rw [noKey] at hasKey
        cases hasKey
      dsimp only
      rw [if_neg different]
      exact own before inEntries key hasKey
    · exact added key hasKey
  · rw [Entries.add, stored] at member
    rcases Table.mem_of_mem_set member with rfl | old
    · exact added key hasKey
    · exact own named old key hasKey

-----------------------------------------------------------------------------------------
-- Changing what entries hold
-----------------------------------------------------------------------------------------

variable {f : Entry → Entry}

/-- The free name does not depend on what the entries hold. -/
@[simp]
theorem freeName_mapValues (f : Entry → Entry) (entries : Entries)
    : freeName (entries.mapValues f) = entries.freeName := by
  have search (tries start : Nat)
      : Builder.freeNumber (entries.mapValues f) tries start
        = Builder.freeNumber entries tries start := by
    induction tries generalizing start with
    | zero => rfl
    | succ tries ih => rw [Builder.freeNumber, Builder.freeNumber, Table.has_mapValues, ih]
  rw [freeName, freeName, search, Table.length_mapValues]

theorem rename_mapValues (f : Entry → Entry) (entries : Entries) (old : Text)
    : rename (entries.mapValues f) old = (entries.rename old).mapValues f := by
  unfold rename
  rw [freeName_mapValues, Table.mapValues, Table.mapValues, List.map_map, List.map_map]
  rfl

/-- Whether a name is taken away depends on nothing but which entries have keys. -/
theorem takesName_mapValues (keeps : Entry.KeepsKeys f) (entries : Entries) (name : Text)
    (entry : Entry)
    : takesName (entries.mapValues f) name (f entry) = entries.takesName name entry := by
  have same : ∀ entry, (f entry).key? = entry.key? := keeps
  simp only [takesName, Table.get?_mapValues, Option.any_map, same]

theorem put_mapValues (keeps : Entry.KeepsKeys f) (entries : Entries) (name : Text)
    (entry : Entry)
    : put (entries.mapValues f) name (f entry) = (entries.put name entry).mapValues f := by
  unfold put
  rw [takesName_mapValues keeps]
  split
  · rw [rename_mapValues, Table.set_mapValues]
  · rw [Table.set_mapValues]

theorem add_mapValues (keeps : Entry.KeepsKeys f) (entries : Entries) (entry : Entry)
    : add (entries.mapValues f) (f entry) = (entries.add entry).mapValues f := by
  have sameName : nameFor (entries.mapValues f) (f entry) = entries.nameFor entry := by
    rw [nameFor, nameFor, keeps, freeName_mapValues]
  rw [add, add, sameName, put_mapValues keeps]

/-- A section filled by changed entries is the changed section, by induction on the entries. -/
theorem ofList_map (keeps : Entry.KeepsKeys f) (entries : List Entry)
    : ofList (entries.map f) = (ofList entries).mapValues f := by
  have filled (entries : List Entry) (start : Entries)
      : (entries.map f).foldl add (start.mapValues f)
        = (entries.foldl add start).mapValues f := by
    induction entries generalizing start with
    | nil => rfl
    | cons entry rest ih => rw [List.map_cons, List.foldl_cons, add_mapValues keeps, ih]; rfl
  exact filled entries []

-----------------------------------------------------------------------------------------
-- Filling a section again
-----------------------------------------------------------------------------------------

/-- What a section filled by adding entries satisfies: its names are distinct, its keys stand
under themselves, and its own entries in their order fill it again.
-/
structure Filled (entries : Entries) : Prop where
  distinct : entries.names.Nodup
  own : entries.OwnKeys
  again : ofList (entries.map Prod.snd) = entries

/-- The change that gives every entry of one key another value. -/
def revalue (kv : KeyValue) (entry : Entry) : Entry :=
  if entry.key? = some kv.key then .keyValue kv else entry

theorem revalue_keepsKeys (kv : KeyValue) : Entry.KeepsKeys (revalue kv) := by
  intro entry
  unfold revalue
  split
  · next same => exact same.symm
  · rfl

/-- A key that is set again changes its own entry and no other. -/
theorem set_eq_mapValues {entries : Entries} (distinct : entries.names.Nodup)
    (own : entries.OwnKeys) {kv : KeyValue} {old : Entry}
    (found : entries.get? kv.key = some old) (hasKey : old.key? = some kv.key)
    : Table.set kv.key (.keyValue kv) entries = entries.mapValues (revalue kv) := by
  have others (part : Entries) (within : ∀ named ∈ part, named ∈ entries)
      (absent : kv.key ∉ part.names)
      : part.mapValues (revalue kv) = part := by
    refine (List.map_congr_left fun named member => ?_).trans (List.map_id part)
    have different : named.2.key? ≠ some kv.key := fun same =>
      absent (own named (within named member) kv.key same ▸ Table.mem_names_of_mem member)
    exact Prod.ext rfl (if_neg different)
  obtain ⟨before, after, rfl, absent⟩ := Table.exists_eq_append_of_get? found
  have later : kv.key ∉ Table.names after := by
    rw [Table.names_append, Table.names_cons, List.nodup_append] at distinct
    exact (List.nodup_cons.mp distinct.2.1).1
  rw [Table.set_append_of_not_mem absent, Table.set, if_pos rfl, Table.mapValues_append,
    Table.mapValues_cons, others before (fun _ member => List.mem_append_left _ member) absent,
    others after (fun _ member => List.mem_append_right _ (List.mem_cons_of_mem _ member)) later,
    revalue, if_pos hasKey]

theorem Filled.nil : Filled [] where
  distinct := List.nodup_nil
  own := by simp [OwnKeys]
  again := rfl

/-- Adding an entry puts it behind all others, unless it is a key that is there already; its value
then changes in its place. What is taken away from a comment on the way is only a name.
-/
theorem values_add {entries : Entries} (distinct : entries.names.Nodup) (own : entries.OwnKeys)
    (entry : Entry)
    : ((∀ key, entry.key? = some key → ∀ named ∈ entries, named.2.key? ≠ some key)
        ∧ (entries.add entry).map Prod.snd = entries.map Prod.snd ++ [entry])
      ∨ ∃ kv, entry = .keyValue kv ∧ (∃ named ∈ entries, named.2.key? = some kv.key)
        ∧ entries.add entry = entries.mapValues (revalue kv) := by
  have nameOf {key : Text} (hasKey : entry.key? = some key) : entries.nameFor entry = key := by
    rw [nameFor, hasKey]
    rfl
  rcases entries.put_cases (entries.nameFor entry) entry with
    ⟨absent, stored⟩ | ⟨taken, stored⟩ | ⟨used, kept, stored⟩
  · refine .inl ⟨fun key hasKey named member holds => ?_, ?_⟩
    · rw [nameOf hasKey] at absent
      exact absent (own named member key holds ▸ Table.mem_names_of_mem member)
    · rw [Entries.add, stored, List.map_append]
      rfl
  · refine .inl ⟨fun key hasKey named member holds => ?_, ?_⟩
    · obtain ⟨_, comment, found, noKey⟩ := takesName_eq_true_iff.mp taken
      rw [nameOf hasKey] at found
      -- The name belongs to the comment alone, so no key stands under it.
      have standing : (key, named.2) ∈ entries := own named member key holds ▸ member
      rw [Table.get?_of_mem distinct standing] at found
      rw [Option.some.inj found, noKey] at holds
      cases holds
    · rw [Entries.add, stored, List.map_append, rename, List.map_map]
      rfl
  · cases entry with
    | comment text => exact absurd used entries.freeName_not_mem
    | keyValue kv =>
        -- The name is in use and is not taken from a comment, so it is the key's own.
        change kv.key ∈ entries.names at used
        change entries.takesName kv.key (.keyValue kv) = false at kept
        change entries.put kv.key (.keyValue kv) = Table.set kv.key (.keyValue kv) entries at stored
        obtain ⟨old, found⟩ : ∃ old, entries.get? kv.key = some old :=
          Option.ne_none_iff_exists'.mp fun none => Table.get?_eq_none_iff.mp none used
        have member := Table.mem_of_get? found
        have hasKey : old.key? = some kv.key := by
          cases key : old.key? with
          | none =>
              have taken : entries.takesName kv.key (.keyValue kv) = true :=
                takesName_eq_true_iff.mpr ⟨rfl, old, found, key⟩
              exact absurd (kept.symm.trans taken) Bool.false_ne_true
          | some k => exact congrArg some (own _ member k key).symm
        refine .inr ⟨kv, rfl, ⟨_, member, hasKey⟩, ?_⟩
        exact stored.trans (set_eq_mapValues distinct own found hasKey)

/-- Adding an entry to a filled section leaves it filled. Where the entry comes last, it does so
again after all the others; where it changes one in its place, the section is filled by the
changed entries.
-/
theorem Filled.add {entries : Entries} (filled : entries.Filled) (entry : Entry)
    : (entries.add entry).Filled where
  distinct := nodup_names_put filled.distinct _ entry
  own := filled.own.add filled.distinct entry
  again := by
    rcases values_add filled.distinct filled.own entry with ⟨_, last⟩ | ⟨kv, rfl, _, changed⟩
    · rw [last, ofList, List.foldl_append]
      exact congrArg (Entries.add · entry) filled.again
    · have values : (entries.mapValues (revalue kv)).map Prod.snd
          = (entries.map Prod.snd).map (revalue kv) := by
        rw [Table.mapValues, List.map_map, List.map_map]
        rfl
      rw [changed, values, ofList_map (revalue_keepsKeys kv), filled.again]

/-- The entries of a filled section, added in their order, are the section. -/
theorem Filled.foldl_add {entries : Entries} (filled : entries.Filled)
    : entries.foldl (fun (e : Entries) named => e.add named.2) [] = entries := by
  have again := filled.again
  rwa [ofList, List.foldl_map] at again

end Entries

end LiveIni
