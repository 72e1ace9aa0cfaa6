import LiveIni.Proofs.Literal.Normalization

/-!
Digit groups. A grouped number is one to three digits, followed by one or more groups of three
digits with a separator before each of them. Where a text begins with one that goes as far as it
can, it loses just these separators, and every text that loses any begins with one.
-/

namespace LiveIni.NumberFormat

open Number

/-- The text is a group: three digits. -/
def IsGroup (t : Text) : Prop :=
  t.length = 3 ∧ ∀ c ∈ t, Text.isAnyDigit c = true

/-- Groups with the separator before each of them. -/
def separated (separator : Text) (groups : List Text) : Text :=
  groups.flatMap (separator ++ ·)

/-- The text is a grouped number: its first digits, and at least one group. -/
structure IsGrouped (head : Text) (groups : List Text) : Prop where
  some : 1 ≤ head.length
  few : head.length ≤ 3
  digits : ∀ c ∈ head, Text.isAnyDigit c = true
  nonempty : groups ≠ []
  groups : ∀ group ∈ groups, IsGroup group

variable {separator t head rest : Text} {groups : List Text}

theorem IsGrouped.isAnyDigit (grouped : IsGrouped head groups)
    : ∀ c ∈ head ++ groups.flatten, Text.isAnyDigit c = true := by
  refine List.forall_mem_append.mpr ⟨grouped.digits, fun c member => ?_⟩
  obtain ⟨group, there, member⟩ := List.mem_flatten.mp member
  exact (grouped.groups group there).2 c member

/-- A grouped number has more digits than one group. -/
theorem IsGrouped.length (grouped : IsGrouped head groups)
    : 3 < (head ++ groups.flatten).length := by
  have some := grouped.some
  have each := grouped.groups
  obtain ⟨group, more, rfl⟩ := List.exists_cons_of_ne_nil grouped.nonempty
  have three := (each group List.mem_cons_self).1
  simp only [List.flatten_cons, List.length_append]
  omega

theorem afterGroup?_eq_some_iff
    : afterGroup? separator t = some rest
      ↔ ∃ group, IsGroup group ∧ t = separator ++ (group ++ rest) := by
  constructor
  · intro found
    obtain ⟨more, start, same⟩ := Option.bind_eq_some_iff.mp found
    rw [List.isPrefixOf?_eq_some_iff_append_eq] at start
    dsimp only at same
    split at same
    · next three =>
        cases same
        refine ⟨more.take 3, ⟨three.1, List.all_eq_true.mp three.2⟩, ?_⟩
        rw [List.take_append_drop, start]
    · cases same
  · rintro ⟨group, ⟨three, digits⟩, rfl⟩
    have start : separator.isPrefixOf? (separator ++ (group ++ rest)) = some (group ++ rest) :=
      List.isPrefixOf?_eq_some_iff_append_eq.mpr rfl
    have taken : (group ++ rest).take 3 = group := by rw [← three, List.take_left]
    have left : (group ++ rest).drop 3 = rest := by rw [← three, List.drop_left]
    rw [afterGroup?, start, Option.bind_some]
    dsimp only
    rw [taken, left, if_pos ⟨three, List.all_eq_true.mpr digits⟩]

/-- Before what is left after some groups, there are those groups, by induction on the groups. -/
theorem exists_groups {fuel : Nat} (member : rest ∈ afterGroups separator fuel t)
    : ∃ groups, groups ≠ [] ∧ (∀ group ∈ groups, IsGroup group)
        ∧ t = separated separator groups ++ rest := by
  induction fuel generalizing t with
  | zero => cases member
  | succ fuel ih =>
      unfold afterGroups at member
      split at member
      · cases member
      · next more found =>
          obtain ⟨group, isGroup, rfl⟩ := afterGroup?_eq_some_iff.mp found
          rcases List.mem_cons.mp member with rfl | later
          · exact ⟨[group], by simp, by simpa using isGroup, by simp [separated]⟩
          · obtain ⟨groups, _, each, rfl⟩ := ih later
            refine ⟨group :: groups, by simp, ?_, by simp [separated]⟩
            exact List.forall_mem_cons.mpr ⟨isGroup, each⟩

/-- After all groups that a text begins with comes what is found last, by induction on the groups.
-/
theorem afterGroups_separated (nonempty : groups ≠ []) (each : ∀ group ∈ groups, IsGroup group)
    (ends : ¬separator <+: rest) {fuel : Nat} (enough : groups.length ≤ fuel)
    : ∃ before, afterGroups separator fuel (separated separator groups ++ rest)
        = before ++ [rest] := by
  induction groups generalizing fuel with
  | nil => exact absurd rfl nonempty
  | cons group more ih =>
      obtain ⟨fuel, rfl⟩ := Nat.exists_eq_add_of_le' (Nat.le_trans (Nat.le_add_left 1 _) enough)
      have found : afterGroup? separator (separated separator (group :: more) ++ rest)
          = some (separated separator more ++ rest) := by
        refine afterGroup?_eq_some_iff.mpr ⟨group, each group List.mem_cons_self, ?_⟩
        simp [separated]
      rw [afterGroups, found]
      dsimp only
      by_cases last : more = []
      · subst last
        exact ⟨[], by simp [separated, afterGroups_eq_nil ends]⟩
      · obtain ⟨before, others⟩ := ih last (fun g member => each g (List.mem_cons_of_mem _ member))
          (Nat.le_of_succ_le_succ enough)
        exact ⟨_ :: before, by rw [others]; rfl⟩

theorem exists_grouped {count : Nat} (counted : count ∈ [3, 2, 1])
    (found : afterGrouped? separator t count = some rest)
    : ∃ head groups, IsGrouped head groups ∧ t = head ++ (separated separator groups ++ rest)
        ∧ ∀ c ∈ rest.head?, Text.isAnyDigit c = false := by
  have range : 1 ≤ count ∧ count ≤ 3 := by
    simp only [List.mem_cons, List.not_mem_nil, or_false] at counted
    omega
  unfold afterGrouped? at found
  dsimp only at found
  split at found
  · next digits =>
      obtain ⟨length, digits⟩ := digits
      have ends := List.find?_some found
      obtain ⟨groups, nonempty, each, cut⟩ :=
        exists_groups (List.mem_reverse.mp (List.mem_of_find?_eq_some found))
      refine ⟨t.take count, groups, ?_, by rw [← cut, List.take_append_drop], fun c head => ?_⟩
      · exact ⟨by omega, by omega, List.all_eq_true.mp digits, nonempty, each⟩
      · rw [Option.mem_def.mp head] at ends
        simpa using ends
  · cases found

theorem length_le_separated (separator : Text) (each : ∀ group ∈ groups, IsGroup group)
    : groups.length ≤ (separated separator groups).length := by
  induction groups with
  | nil => exact Nat.le_refl 0
  | cons group more ih =>
      have three := (each group List.mem_cons_self).1
      have shorter := ih fun g member => each g (List.mem_cons_of_mem _ member)
      simp only [separated, List.flatMap_cons, List.length_append, List.length_cons] at shorter ⊢
      omega

/-- A grouped number is found with its own first digits, if what follows begins neither like a digit
nor like a group.
-/
theorem afterGrouped?_grouped (grouped : IsGrouped head groups) (ends : ¬separator <+: rest)
    (noDigit : ∀ c ∈ rest.head?, Text.isAnyDigit c = false)
    : afterGrouped? separator (head ++ (separated separator groups ++ rest)) head.length
      = some rest := by
  have enough : groups.length ≤ (head ++ (separated separator groups ++ rest)).length := by
    have bound := length_le_separated separator grouped.groups
    simp only [List.length_append]
    omega
  obtain ⟨before, found⟩ := afterGroups_separated grouped.nonempty grouped.groups ends enough
  unfold afterGrouped?
  dsimp only
  rw [List.take_left, List.drop_left, if_pos ⟨rfl, List.all_eq_true.mpr grouped.digits⟩, found,
    List.reverse_append]
  refine List.find?_cons_of_pos ?_
  cases rest with
  | nil => rfl
  | cons c more => simp [noDigit c rfl]

-----------------------------------------------------------------------------------------
-- Texts that lose their separators
-----------------------------------------------------------------------------------------

variable {g : Char}

/-- Dropping the separators of groups leaves their digits. -/
theorem replaceAll_separated (apart : Text.isAnyDigit g = false)
    (digits : ∀ c ∈ head, Text.isAnyDigit c = true) (each : ∀ group ∈ groups, IsGroup group)
    : Text.replaceAll [g] [] (head ++ separated [g] groups) = head ++ groups.flatten := by
  have kept {t : Text} (digits : ∀ c ∈ t, Text.isAnyDigit c = true)
      : (t.flatMap fun d => if d = g then [] else [d]) = t := by
    refine flatMap_drop_of_not_mem fun member => ?_
    rw [digits g member] at apart
    cases apart
  have others : ((separated [g] groups).flatMap fun d => if d = g then [] else [d])
      = groups.flatten := by
    rw [separated, List.flatMap_assoc, List.flatten_eq_flatMap]
    refine List.flatMap_congr fun group member => ?_
    rw [List.singleton_append, List.flatMap_cons, if_pos rfl, kept (each group member).2]
    rfl
  rw [Text.replaceAll_singleton, List.flatMap_append, kept digits, others]

theorem take_grouped (head groups rest : Text)
    : (head ++ (groups ++ rest)).take ((head ++ (groups ++ rest)).length - rest.length)
      = head ++ groups := by
  rw [← List.append_assoc, List.length_append, Nat.add_sub_cancel, List.take_left]

/-- A grouped number loses its separators. -/
theorem ungroup_grouped (apart : Text.isAnyDigit g = false) {negative : Bool} {sign : Text}
    (signed : Literal.WritesSign negative sign) (grouped : IsGrouped head groups)
    (unsigned : ∀ c ∈ head, c ≠ '-' ∧ c ≠ '+') (ends : g ∉ rest.head?)
    (noDigit : ∀ c ∈ rest.head?, Text.isAnyDigit c = false)
    : ungroup [g] (sign ++ (head ++ (separated [g] groups ++ rest)))
      = sign ++ (head ++ groups.flatten ++ rest) := by
  have read : Decimal.readSign (sign ++ (head ++ (separated [g] groups ++ rest)))
      = (negative, head ++ (separated [g] groups ++ rest)) := by
    refine Literal.readSign_append signed fun d start => ?_
    obtain ⟨c, more, rfl⟩ := List.exists_cons_of_length_pos grouped.some
    cases start
    exact unsigned d List.mem_cons_self
  have here : afterGrouped? [g] (head ++ (separated [g] groups ++ rest)) head.length = some rest :=
    afterGrouped?_grouped grouped (fun ⟨_, same⟩ => ends (same ▸ rfl)) noDigit
  have beyond {count : Nat} (long : head.length < count)
      : afterGrouped? [g] (head ++ (separated [g] groups ++ rest)) count = none := by
    obtain ⟨first, others, rfl⟩ := List.exists_cons_of_ne_nil grouped.nonempty
    exact afterGrouped?_beyond apart long
  -- Of the heads that are tried, longer ones first, only that of the number itself is all digits.
  have found : [3, 2, 1].findSome? (afterGrouped? [g] (head ++ (separated [g] groups ++ rest)))
      = some rest := by
    have some := grouped.some
    have few := grouped.few
    rcases (by omega : head.length = 3 ∨ head.length = 2 ∨ head.length = 1) with
      three | two | one
    · rw [three] at here
      rw [List.findSome?_cons, here]
    · rw [two] at here
      rw [List.findSome?_cons, beyond (by omega), List.findSome?_cons, here]
    · rw [one] at here
      rw [List.findSome?_cons, beyond (by omega), List.findSome?_cons, beyond (by omega),
        List.findSome?_cons, here]
  obtain ⟨other, _, text, ungrouped⟩ :=
    ungroup_cases [g] (sign ++ (head ++ (separated [g] groups ++ rest)))
  rw [read] at text ungrouped
  cases List.append_cancel_right text
  rw [ungrouped, found]
  dsimp only
  rw [take_grouped, replaceAll_separated apart grouped.digits grouped.groups, List.append_assoc]

/-- A text is kept, or it begins with a grouped number that loses its separators. -/
theorem ungroup_outcome (apart : Text.isAnyDigit g = false) (t : Text)
    : ungroup [g] t = t
      ∨ ∃ negative sign head groups rest, Literal.WritesSign negative sign ∧ IsGrouped head groups
        ∧ (∀ c ∈ rest.head?, Text.isAnyDigit c = false)
        ∧ t = sign ++ (head ++ (separated [g] groups ++ rest))
        ∧ ungroup [g] t = sign ++ (head ++ groups.flatten ++ rest) := by
  obtain ⟨sign, signed, text, ungrouped⟩ := ungroup_cases [g] t
  cases found : [3, 2, 1].findSome? (afterGrouped? [g] (Decimal.readSign t).2) with
  | none =>
      rw [found] at ungrouped
      exact .inl ungrouped
  | some rest =>
      rw [found] at ungrouped
      obtain ⟨count, counted, after⟩ := List.exists_of_findSome?_eq_some found
      obtain ⟨head, groups, grouped, cut, noDigit⟩ := exists_grouped counted after
      refine .inr ⟨_, sign, head, groups, rest, signed, grouped, noDigit, ?_, ?_⟩
      · rw [← cut]
        exact text
      · rw [ungrouped, cut]
        dsimp only
        rw [take_grouped, replaceAll_separated apart grouped.digits grouped.groups,
          List.append_assoc]

end LiveIni.NumberFormat
