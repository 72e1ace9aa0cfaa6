import LiveIni.Table

/-!
Tables as lists: which names they have, what setting a name changes, and that a table with
distinct names keeps them distinct.
-/

namespace LiveIni.Table

variable {α β : Type} {name : Text}

@[simp]
theorem names_nil : names ([] : Table α) = [] := rfl

@[simp]
theorem names_cons (entry : Text × α) (t : Table α) : names (entry :: t) = entry.1 :: names t :=
  rfl

@[simp]
theorem names_append (t u : Table α) : names (t ++ u) = names t ++ names u :=
  List.map_append

theorem get?_eq_none_iff {t : Table α} : get? name t = none ↔ name ∉ t.names := by
  induction t with
  | nil => simp [get?]
  | cons head rest ih =>
      by_cases same : head.1 = name
      · simp [get?, same]
      · simp [get?, same, ih, Ne.symm same]

theorem has_eq_true_iff {t : Table α} : t.has name = true ↔ name ∈ t.names := by
  rw [has, Option.isSome_iff_ne_none, ne_eq, get?_eq_none_iff, Classical.not_not]

theorem mem_of_get? {t : Table α} {a : α} (found : get? name t = some a) : (name, a) ∈ t := by
  induction t with
  | nil => cases found
  | cons head rest ih =>
      by_cases same : head.1 = name
      · rw [get?, if_pos same] at found
        cases found
        exact List.mem_cons.mpr (.inl (Prod.ext same.symm rfl))
      · rw [get?, if_neg same] at found
        exact List.mem_cons_of_mem _ (ih found)

theorem mem_names_of_mem {t : Table α} {entry : Text × α} (member : entry ∈ t)
    : entry.1 ∈ t.names :=
  List.mem_map_of_mem member

/-- With distinct names, what a name has in the table is what is found. -/
theorem get?_of_mem {t : Table α} (distinct : t.names.Nodup) {a : α} (member : (name, a) ∈ t)
    : get? name t = some a := by
  induction t with
  | nil => cases member
  | cons head rest ih =>
      rw [names_cons, List.nodup_cons] at distinct
      rcases List.mem_cons.mp member with rfl | later
      · rw [get?, if_pos rfl]
      · have other : head.1 ≠ name := fun same =>
          distinct.1 (same ▸ mem_names_of_mem later)
        rw [get?, if_neg other, ih distinct.2 later]

theorem get?_append_of_not_mem {t : Table α} (absent : name ∉ t.names) (u : Table α)
    : get? name (t ++ u) = get? name u := by
  induction t with
  | nil => rfl
  | cons head rest ih =>
      rw [names_cons, List.mem_cons, not_or] at absent
      rw [List.cons_append, get?, if_neg (Ne.symm absent.1), ih absent.2]

/-- With distinct names, no name occurs again before its place. -/
theorem not_mem_of_nodup_append {before after : Table α} {entry : Text × α}
    (distinct : (names (before ++ entry :: after)).Nodup)
    : entry.1 ∉ before.names := by
  rw [names_append, List.nodup_append] at distinct
  exact fun member => distinct.2.2 _ member _ List.mem_cons_self rfl

-----------------------------------------------------------------------------------------
-- Setting a name
-----------------------------------------------------------------------------------------

theorem set_append_of_not_mem {t : Table α} (absent : name ∉ t.names) (a : α) (u : Table α)
    : set name a (t ++ u) = t ++ set name a u := by
  induction t with
  | nil => rfl
  | cons head rest ih =>
      rw [names_cons, List.mem_cons, not_or] at absent
      rw [List.cons_append, set, if_neg (Ne.symm absent.1), ih absent.2]
      rfl

theorem set_of_not_mem {t : Table α} (absent : name ∉ t.names) (a : α)
    : set name a t = t ++ [(name, a)] := by
  have appended := set_append_of_not_mem absent a []
  rwa [List.append_nil] at appended

theorem mem_names_set {other : Text} {t : Table α} {a : α}
    : other ∈ (set name a t).names ↔ other = name ∨ other ∈ t.names := by
  induction t with
  | nil => simp [set]
  | cons head rest ih =>
      by_cases same : head.1 = name
      · rw [set, if_pos same, names_cons, names_cons, List.mem_cons, List.mem_cons, same,
          or_self_left]
      · rw [set, if_neg same, names_cons, names_cons, List.mem_cons, List.mem_cons, ih,
          or_left_comm]

/-- Setting a name adds it at the end, unless the table has it. -/
theorem names_set (t : Table α) (a : α)
    : (set name a t).names = if name ∈ t.names then t.names else t.names ++ [name] := by
  induction t with
  | nil => simp [set]
  | cons head rest ih =>
      by_cases same : head.1 = name
      · simp [set, same]
      · simp only [set, if_neg same, names_cons, ih, List.mem_cons, Ne.symm same, false_or]
        split
        · rfl
        · rfl

theorem nodup_names_set {t : Table α} (distinct : t.names.Nodup) (a : α)
    : (set name a t).names.Nodup := by
  induction t with
  | nil => simp [set]
  | cons head rest ih =>
      rw [names_cons, List.nodup_cons] at distinct
      by_cases same : head.1 = name
      · rw [set, if_pos same, names_cons, List.nodup_cons]
        exact ⟨same ▸ distinct.1, distinct.2⟩
      · rw [set, if_neg same, names_cons, List.nodup_cons, mem_names_set, not_or]
        exact ⟨⟨same, distinct.1⟩, ih distinct.2⟩

theorem set_set (a b : α) (t : Table α) : set name a (set name b t) = set name a t := by
  induction t with
  | nil => simp [set]
  | cons head rest ih =>
      by_cases same : head.1 = name
      · simp [set, same]
      · simp [set, same, ih]

/-- What is in a table after a name is set was there before, or is what was set. -/
theorem mem_of_mem_set {t : Table α} {a : α} {entry : Text × α} (member : entry ∈ set name a t)
    : entry = (name, a) ∨ entry ∈ t := by
  induction t with
  | nil =>
      rw [set, List.mem_singleton] at member
      exact .inl member
  | cons head rest ih =>
      by_cases same : head.1 = name
      · rw [set, if_pos same, List.mem_cons] at member
        exact member.imp_right (List.mem_cons_of_mem head)
      · rw [set, if_neg same, List.mem_cons] at member
        rcases member with rfl | later
        · exact .inr List.mem_cons_self
        · exact (ih later).imp_right (List.mem_cons_of_mem head)

/-- A table with a name is cut in two at its first entry of that name. -/
theorem exists_eq_append_of_get? {t : Table α} {a : α} (found : get? name t = some a)
    : ∃ before after, t = before ++ (name, a) :: after ∧ name ∉ before.names := by
  induction t with
  | nil => cases found
  | cons head rest ih =>
      by_cases same : head.1 = name
      · rw [get?, if_pos same] at found
        cases found
        exact ⟨[], rest, by rw [← same]; rfl, by simp⟩
      · rw [get?, if_neg same] at found
        obtain ⟨before, after, rfl, absent⟩ := ih found
        refine ⟨head :: before, after, rfl, ?_⟩
        rw [names_cons, List.mem_cons, not_or]
        exact ⟨Ne.symm same, absent⟩

-----------------------------------------------------------------------------------------
-- Changing all values
-----------------------------------------------------------------------------------------

/-- A table with every value changed, under its name. -/
def mapValues (f : α → β) (t : Table α) : Table β :=
  t.map fun (name, a) => (name, f a)

@[simp]
theorem mapValues_nil (f : α → β) : mapValues f [] = [] := rfl

@[simp]
theorem mapValues_cons (f : α → β) (entry : Text × α) (t : Table α)
    : mapValues f (entry :: t) = (entry.1, f entry.2) :: mapValues f t :=
  rfl

@[simp]
theorem mapValues_append (f : α → β) (t u : Table α)
    : mapValues f (t ++ u) = mapValues f t ++ mapValues f u :=
  List.map_append

@[simp]
theorem mapValues_id (t : Table α) : mapValues id t = t :=
  List.map_id t

theorem mapValues_mapValues {γ : Type} (f : α → β) (g : β → γ) (t : Table α)
    : mapValues g (mapValues f t) = mapValues (g ∘ f) t := by
  rw [mapValues, mapValues, mapValues, List.map_map]
  rfl

@[simp]
theorem names_mapValues (f : α → β) (t : Table α) : (mapValues f t).names = t.names := by
  rw [names, names, mapValues, List.map_map]
  rfl

@[simp]
theorem length_mapValues (f : α → β) (t : Table α) : (mapValues f t).length = t.length :=
  List.length_map _

@[simp]
theorem get?_mapValues (f : α → β) (t : Table α)
    : get? name (mapValues f t) = (get? name t).map f := by
  induction t with
  | nil => rfl
  | cons head rest ih =>
      by_cases same : head.1 = name
      · simp [get?, same]
      · simp [get?, same, ih]

@[simp]
theorem has_mapValues (f : α → β) (t : Table α) : (mapValues f t).has name = t.has name := by
  rw [has, has, get?_mapValues, Option.isSome_map]

theorem set_mapValues (f : α → β) (a : α) (t : Table α)
    : set name (f a) (mapValues f t) = mapValues f (set name a t) := by
  induction t with
  | nil => rfl
  | cons head rest ih =>
      by_cases same : head.1 = name
      · simp [set, same]
      · simp [set, same, ih]

end LiveIni.Table
