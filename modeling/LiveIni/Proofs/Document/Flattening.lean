import LiveIni.Proofs.Document.Additions
import LiveIni.Proofs.Literal.Positional

/-!
The entries of a section as a plain table of values. Entries are set in their order, each key before
its companion, so that a name which is set twice keeps what comes last. Comments are never among
these: their names end in digits.
-/

namespace LiveIni

-----------------------------------------------------------------------------------------
-- Setting names one after another
-----------------------------------------------------------------------------------------

namespace Table

variable {α : Type} {name : Text}

/-- The table with some names set, one after another. -/
def setAll (t : Table α) (assigned : Table α) : Table α :=
  assigned.foldl (fun t entry => t.set entry.1 entry.2) t

theorem setAll_append (t before after : Table α)
    : t.setAll (before ++ after) = (t.setAll before).setAll after :=
  List.foldl_append

/-- Names that are not set keep what they have, by induction on what is set. -/
theorem get?_setAll_of_not_mem {assigned : Table α} (absent : name ∉ assigned.names) (t : Table α)
    : get? name (t.setAll assigned) = get? name t := by
  induction assigned generalizing t with
  | nil => rfl
  | cons entry rest ih =>
      rw [names_cons, List.mem_cons, not_or] at absent
      exact (ih absent.2 _).trans (get?_set_of_ne absent.1 entry.2 t)

/-- A name has what has been set last. -/
theorem get?_setAll_last {after : Table α} (last : name ∉ after.names) (t before : Table α) (a : α)
    : get? name (t.setAll (before ++ (name, a) :: after)) = some a := by
  rw [setAll_append]
  exact (get?_setAll_of_not_mem last _).trans (get?_set_self name a _)

/-- By induction on what is set. -/
theorem mem_names_setAll {t assigned : Table α}
    : name ∈ (t.setAll assigned).names ↔ name ∈ t.names ∨ name ∈ assigned.names := by
  induction assigned generalizing t with
  | nil => simp [setAll]
  | cons entry rest ih =>
      refine ih.trans ?_
      rw [mem_names_set, names_cons, List.mem_cons, or_assoc, or_left_comm]

/-- By induction on what is set. -/
theorem nodup_names_setAll {t : Table α} (distinct : t.names.Nodup) (assigned : Table α)
    : (t.setAll assigned).names.Nodup := by
  induction assigned generalizing t with
  | nil => exact distinct
  | cons entry rest ih => exact ih (nodup_names_set distinct entry.2)

/-- In the table, the name `other` stands after `name`. -/
def Precedes (t : Table α) (name other : Text) : Prop :=
  ∃ before a after, t = before ++ (name, a) :: after ∧ other ∈ names after

end Table

-----------------------------------------------------------------------------------------
-- The names of comments
-----------------------------------------------------------------------------------------

namespace Entries

/-- Every comment stands under a made-up name. -/
def MadeUp (entries : Entries) : Prop :=
  ∀ named ∈ entries, named.2.key? = none → ∃ n, named.1 = Builder.commentName n

/-- Adding an entry gives comments no names but made-up ones. -/
theorem MadeUp.add {entries : Entries} (madeUp : entries.MadeUp) (entry : Entry)
    : (entries.add entry).MadeUp := by
  intro named member noKey
  unfold Entries.add put at member
  rcases Table.mem_of_mem_set member with rfl | old
  · rw [nameFor, noKey]
    exact ⟨_, rfl⟩
  · split at old
    · obtain ⟨before, inEntries, rfl⟩ := List.mem_map.mp old
      dsimp only
      split
      · exact ⟨_, rfl⟩
      · exact madeUp before inEntries noKey
    · exact madeUp named old noKey

theorem madeUp_ofList (added : List Entry) : (ofList added).MadeUp := by
  refine List.foldlRecOn added Entries.add ?_ fun _ madeUp entry _ => madeUp.add entry
  simp [MadeUp]

end Entries

/-- A made-up name is no companion, since it ends in a digit. -/
theorem Builder.commentName_ne_companion (n : Nat) (key : Text)
    : commentName n ≠ key ++ Document.rawSuffix := by
  intro same
  have nonempty : Text.ofNat n ≠ [] := Nat.toDigits_ne_nil
  have digits : (commentName n).getLast? = (Text.ofNat n).getLast? :=
    List.getLast?_append_of_ne_nil _ nonempty
  have letters : (key ++ Document.rawSuffix).getLast? = some 'd' :=
    (List.getLast?_append_of_ne_nil _ (by decide)).trans (by decide)
  rw [same, letters] at digits
  exact absurd (Text.isDigit_of_mem_ofNat (List.mem_of_getLast? digits.symm)) (by decide)

namespace Document

variable {entries : Entries} {withRaw : Bool}

-----------------------------------------------------------------------------------------
-- What an entry sets
-----------------------------------------------------------------------------------------

/-- The name under which the raw text of a key stands. -/
def companion (key : Text) : Text :=
  key ++ rawSuffix

theorem companion_injective : Function.Injective companion :=
  fun _ _ same => List.append_cancel_right same

/-- What an entry sets: its own name, and with `withRaw` the companion of a key. -/
def assignments (withRaw : Bool) : Text × Entry → Table Value
  | (name, .comment text) => [(name, .text text)]
  | (name, .keyValue kv) =>
    (name, kv.typed.value) :: if withRaw then [(companion name, .text kv.raw)] else []

theorem flattenEntries_eq_setAll (withRaw : Bool) (entries : Entries)
    : flattenEntries withRaw entries = Table.setAll [] (entries.flatMap (assignments withRaw)) := by
  rw [Table.setAll, List.foldl_flatMap, flattenEntries]
  congr 1
  funext flat (name, entry)
  cases entry with
  | comment text => rfl
  | keyValue kv => cases withRaw <;> rfl

/-- The names that entries set are their own and companions of keys. -/
theorem mem_names_assignments {name : Text}
    : name ∈ Table.names (entries.flatMap (assignments withRaw))
      ↔ name ∈ entries.names
        ∨ withRaw = true ∧ ∃ key kv, (key, .keyValue kv) ∈ entries ∧ name = companion key := by
  have one (named : Text × Entry)
      : name ∈ Table.names (assignments withRaw named)
        ↔ name = named.1 ∨ withRaw = true ∧ ∃ kv, named.2 = .keyValue kv
          ∧ name = companion named.1 := by
    obtain ⟨own, entry⟩ := named
    cases entry with
    | comment text => simp [assignments]
    | keyValue kv => cases withRaw <;> simp [assignments]
  constructor
  · intro member
    obtain ⟨assigned, inAll, rfl⟩ := List.mem_map.mp member
    obtain ⟨named, inEntries, sets⟩ := List.mem_flatMap.mp inAll
    rcases (one named).mp (Table.mem_names_of_mem sets) with same | ⟨raw, kv, isKey, same⟩
    · exact Or.inl (same ▸ Table.mem_names_of_mem inEntries)
    · exact Or.inr ⟨raw, named.1, kv, isKey ▸ inEntries, same⟩
  · have found {named : Text × Entry} (inEntries : named ∈ entries)
        (sets : name ∈ Table.names (assignments withRaw named))
        : name ∈ Table.names (entries.flatMap (assignments withRaw)) := by
      obtain ⟨assigned, member, rfl⟩ := List.mem_map.mp sets
      exact Table.mem_names_of_mem (List.mem_flatMap.mpr ⟨named, inEntries, member⟩)
    rintro (own | ⟨raw, key, kv, inEntries, rfl⟩)
    · obtain ⟨named, inEntries, rfl⟩ := List.mem_map.mp own
      exact found inEntries ((one named).mpr (Or.inl rfl))
    · exact found inEntries ((one _).mpr (Or.inr ⟨raw, kv, rfl, rfl⟩))

/-- A name that an entry sets stays as it is if neither the entry nor those after it set it again. -/
theorem get?_flattenEntries_last {before after : Entries} {named : Text × Entry} {name : Text}
    {a : Value} {taken more : Table Value} (cut : entries = before ++ named :: after)
    (sets : assignments withRaw named = taken ++ (name, a) :: more) (notMore : name ∉ more.names)
    (notAfter : name ∉ Table.names after)
    (noCompanion : withRaw = true → ∀ key kv, (key, .keyValue kv) ∈ after → name ≠ companion key)
    : Table.get? name (flattenEntries withRaw entries) = some a := by
  have last : name ∉ Table.names (more ++ after.flatMap (assignments withRaw)) := by
    rw [Table.names_append, List.mem_append, not_or, mem_names_assignments, not_or]
    refine ⟨notMore, notAfter, ?_⟩
    rintro ⟨raw, key, kv, member, same⟩
    exact noCompanion raw key kv member same
  have assigned : entries.flatMap (assignments withRaw)
      = (before.flatMap (assignments withRaw) ++ taken)
        ++ (name, a) :: (more ++ after.flatMap (assignments withRaw)) := by
    rw [cut, List.flatMap_append, List.flatMap_cons, sets]
    simp only [List.append_assoc, List.cons_append]
  rw [flattenEntries_eq_setAll, assigned]
  exact Table.get?_setAll_last last _ _ a

-----------------------------------------------------------------------------------------
-- The view of a section
-----------------------------------------------------------------------------------------

/-- The companion of the key `other` takes the place of `key`: it has its name, and is set later since
`other` stands after `key`.
-/
def Replaces (entries : Entries) (other key : Text) : Prop :=
  key = companion other ∧ (∃ kv, entries.get? other = some (.keyValue kv))
    ∧ entries.Precedes key other

/-- What the plain table of a section has. Its names are those of the section and, with `withRaw`, the
companions of keys. Each comment and each key keeps what it stands for, except that a companion takes
the place of a key of its name which stands before the key that it belongs to.
-/
structure IsViewOf (withRaw : Bool) (flat : Table Value) (entries : Entries) : Prop where
  distinct : flat.names.Nodup
  names : ∀ {name}, name ∈ flat.names
    ↔ name ∈ entries.names
      ∨ withRaw = true ∧ ∃ key kv, (key, .keyValue kv) ∈ entries ∧ name = companion key
  comment : ∀ {name text}, entries.get? name = some (.comment text)
    → flat.get? name = some (.text text)
  value : ∀ {key kv}, entries.get? key = some (.keyValue kv)
    → (withRaw = true → ∀ other, ¬ Replaces entries other key)
    → flat.get? key = some kv.typed.value
  replaced : ∀ {key other kv}, withRaw = true → Replaces entries other key
    → entries.get? other = some (.keyValue kv) → flat.get? key = some (.text kv.raw)
  raw : ∀ {key kv}, entries.get? key = some (.keyValue kv) → withRaw = true
    → ¬ entries.Precedes key (companion key) → flat.get? (companion key) = some (.text kv.raw)

theorem companion_ne (key : Text) : companion key ≠ key := by
  intro same
  have lengths := congrArg List.length same
  have some : 0 < rawSuffix.length := by decide
  rw [companion, List.length_append] at lengths
  omega

section

variable (distinct : entries.names.Nodup)
include distinct

/-- With distinct names, a name stands in one place. -/
theorem not_mem_after {before after : Entries} {name : Text} {entry : Entry}
    (cut : entries = before ++ (name, entry) :: after)
    : name ∉ Table.names after := by
  rw [cut, Table.names_append, List.nodup_append] at distinct
  exact (List.nodup_cons.mp distinct.2.1).1

theorem get?_of_mem_after {before after : Entries} {named : Text × Entry} {key : Text} {kv : KeyValue}
    (cut : entries = before ++ named :: after) (member : (key, .keyValue kv) ∈ after)
    : entries.get? key = some (.keyValue kv) :=
  Table.get?_of_mem distinct (cut ▸ List.mem_append_right before (List.mem_cons_of_mem _ member))

theorem get?_comment (madeUp : entries.MadeUp) {name text : Text}
    (found : entries.get? name = some (.comment text))
    : (flattenEntries withRaw entries).get? name = some (.text text) := by
  obtain ⟨n, rfl⟩ := madeUp _ (Table.mem_of_get? found) rfl
  obtain ⟨before, after, cut, _⟩ := Table.exists_eq_append_of_get? found
  have sets : assignments withRaw (Builder.commentName n, .comment text)
      = [] ++ (Builder.commentName n, .text text) :: [] := rfl
  exact get?_flattenEntries_last cut sets List.not_mem_nil (not_mem_after distinct cut)
    fun _ key _ _ => Builder.commentName_ne_companion n key

theorem get?_value {key : Text} {kv : KeyValue} (found : entries.get? key = some (.keyValue kv))
    (apart : withRaw = true → ∀ other, ¬ Replaces entries other key)
    : (flattenEntries withRaw entries).get? key = some kv.typed.value := by
  obtain ⟨before, after, cut, _⟩ := Table.exists_eq_append_of_get? found
  let more : Table Value := if withRaw then [(companion key, .text kv.raw)] else []
  have sets : assignments withRaw (key, .keyValue kv) = [] ++ (key, kv.typed.value) :: more := rfl
  refine get?_flattenEntries_last cut sets ?_ (not_mem_after distinct cut) ?_
  · dsimp only [more]
    split
    · simpa using (companion_ne key).symm
    · exact List.not_mem_nil
  · intro raw other otherKv member same
    refine apart raw other ⟨same, ⟨otherKv, get?_of_mem_after distinct cut member⟩, ?_⟩
    exact ⟨before, _, after, cut, Table.mem_names_of_mem member⟩

/-- The companion of a key stands last unless an entry of its name stands after the key. -/
theorem get?_companion {key : Text} {kv : KeyValue} (found : entries.get? key = some (.keyValue kv))
    (apart : ¬ entries.Precedes key (companion key))
    : (flattenEntries true entries).get? (companion key) = some (.text kv.raw) := by
  obtain ⟨before, after, cut, _⟩ := Table.exists_eq_append_of_get? found
  have sets : assignments true (key, .keyValue kv)
      = [(key, kv.typed.value)] ++ (companion key, .text kv.raw) :: [] := rfl
  refine get?_flattenEntries_last cut sets List.not_mem_nil ?_ ?_
  · exact fun member => apart ⟨before, _, after, cut, member⟩
  · intro _ other _ member same
    obtain rfl : key = other := companion_injective same
    exact not_mem_after distinct cut (Table.mem_names_of_mem member)

/-- Of two names only one stands after the other. -/
theorem precedes_asymm {name other : Text} (precedes : entries.Precedes name other)
    : ¬ entries.Precedes other name := by
  rintro ⟨before, _, after, cut, later⟩
  obtain ⟨start, _, rest, here, behind⟩ := precedes
  have noName : name ∉ Table.names rest := not_mem_after distinct here
  have noOther : other ∉ Table.names after := not_mem_after distinct cut
  have within {name : Text} (between : Entries) (entry : Text × Entry) {part : Entries}
      (member : name ∈ Table.names part)
      : name ∈ Table.names (between ++ entry :: part) := by
    rw [Table.names_append]
    exact List.mem_append_right _ (List.mem_cons_of_mem _ member)
  rcases List.append_eq_append_iff.mp (here.symm.trans cut) with
    ⟨_ | ⟨_, between⟩, -, same⟩ | ⟨_ | ⟨_, between⟩, -, same⟩
  · cases same
    exact noName later
  · cases same
    exact noName (within between _ later)
  · cases same
    exact noName later
  · cases same
    exact noOther (within between _ behind)

end

/-- A section whose names are distinct, and whose comments stand under made-up names, has the view.
Witness: what sets a name last is its own entry or the companion that stands after it, and no two keys
have one companion.
-/
theorem isViewOf_flattenEntries (distinct : entries.names.Nodup) (madeUp : entries.MadeUp)
    (withRaw : Bool)
    : IsViewOf withRaw (flattenEntries withRaw entries) entries where
  distinct := by
    rw [flattenEntries_eq_setAll]
    exact Table.nodup_names_setAll (by simp) _
  names := by
    intro name
    rw [flattenEntries_eq_setAll, Table.mem_names_setAll, mem_names_assignments]
    simp
  comment := get?_comment distinct madeUp
  value := get?_value distinct
  replaced := by
    rintro key other kv rfl ⟨rfl, _, precedes⟩ found
    exact get?_companion distinct found (precedes_asymm distinct precedes)
  raw := by
    rintro key kv found rfl apart
    exact get?_companion distinct found apart

end Document

end LiveIni
