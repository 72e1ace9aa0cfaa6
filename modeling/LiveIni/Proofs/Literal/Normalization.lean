import LiveIni.Literal.Format
import LiveIni.Proofs.Literal.Reading
import LiveIni.Proofs.Text.Replacing

/-!
What bringing a text to the invariant format does to it. It adds no character but points. It leaves a
text alone in which the group separator does not occur, and takes a point for a group separator only
between at most three digits and exactly three.
-/

namespace LiveIni.NumberFormat

open Number

variable {separator t rest : Text}

-----------------------------------------------------------------------------------------
-- Where the characters come from
-----------------------------------------------------------------------------------------

theorem suffix_of_afterGroup? (found : afterGroup? separator t = some rest) : rest <:+ t := by
  obtain ⟨digits, start, same⟩ := Option.bind_eq_some_iff.mp found
  rw [List.isPrefixOf?_eq_some_iff_append_eq] at start
  dsimp only at same
  split at same
  · cases same
    rw [← start]
    exact (List.drop_suffix 3 digits).trans (List.suffix_append separator digits)
  · cases same

/-- What is left after some groups is the end of the text, by induction on the groups. -/
theorem suffix_of_mem_afterGroups {fuel : Nat} (member : rest ∈ afterGroups separator fuel t)
    : rest <:+ t := by
  induction fuel generalizing t with
  | zero => cases member
  | succ fuel ih =>
      unfold afterGroups at member
      split at member
      · cases member
      · next found =>
          rcases List.mem_cons.mp member with rfl | later
          · exact suffix_of_afterGroup? found
          · exact (ih later).trans (suffix_of_afterGroup? found)

theorem suffix_of_afterGrouped? {head : Nat} (found : afterGrouped? separator t head = some rest)
    : rest <:+ t := by
  unfold afterGrouped? at found
  dsimp only at found
  split at found
  · have member := List.mem_reverse.mp (List.mem_of_find?_eq_some found)
    exact (suffix_of_mem_afterGroups member).trans (List.drop_suffix head t)
  · cases found

/-- The unsigned part of a text loses the separators of its leading groups, if it has any. -/
theorem ungroup_cases (separator t : Text)
    : ∃ sign, Literal.WritesSign (Decimal.readSign t).1 sign
        ∧ t = sign ++ (Decimal.readSign t).2
        ∧ ungroup separator t
          = match [3, 2, 1].findSome? (afterGrouped? separator (Decimal.readSign t).2) with
            | none => t
            | some rest =>
              sign ++ Text.replaceAll separator []
                ((Decimal.readSign t).2.take ((Decimal.readSign t).2.length - rest.length))
                ++ rest := by
  match t with
  | [] => exact ⟨[], .absent, rfl, rfl⟩
  | c :: rest =>
      by_cases minus : c = '-'
      · subst minus
        exact ⟨['-'], .minus, rfl, rfl⟩
      · by_cases plus : c = '+'
        · subst plus
          exact ⟨['+'], .plus, rfl, rfl⟩
        · have unsigned : Decimal.readSign (c :: rest) = (false, c :: rest) := by
            simp [Decimal.readSign, minus, plus]
          refine ⟨[], ?_, ?_, ?_⟩
          · rw [unsigned]
            exact .absent
          · rw [unsigned]
            rfl
          · rw [unsigned]
            simp only [ungroup, List.nil_append]
            split <;> simp_all

theorem mem_ungroup {c : Char} (member : c ∈ ungroup separator t) : c ∈ t := by
  obtain ⟨sign, _, whole, same⟩ := ungroup_cases separator t
  rw [same] at member
  split at member
  · exact member
  · next rest found =>
      obtain ⟨head, _, after⟩ := List.exists_of_findSome?_eq_some found
      rw [whole]
      simp only [List.mem_append] at member ⊢
      rcases member with (inSign | inGroups) | inRest
      · exact .inl inSign
      · rcases Text.mem_replaceAll inGroups with impossible | there
        · cases impossible
        · exact .inr (List.mem_of_mem_take there)
      · exact .inr ((suffix_of_afterGrouped? after).subset inRest)

/-- No character is added but points. -/
theorem mem_normalize? {format : NumberFormat} {normalized : Text} {c : Char}
    (normal : format.normalize? t = some normalized) (member : c ∈ normalized)
    : c ∈ t ∨ c = '.' := by
  unfold normalize? at normal
  extract_lets ungrouped at normal
  have fromText {c : Char} (member : c ∈ ungrouped) : c ∈ t := by
    dsimp only [ungrouped] at member
    split at member
    · exact member
    · exact mem_ungroup member
  clear_value ungrouped
  split at normal
  · cases normal
    exact .inl member
  · split at normal
    · cases normal
      exact .inl (fromText member)
    · split at normal
      · cases normal
      · cases normal
        rcases Text.mem_replaceAll member with isPoint | there
        · exact .inr (List.mem_singleton.mp isPoint)
        · exact .inl (fromText there)

-----------------------------------------------------------------------------------------
-- Texts without groups
-----------------------------------------------------------------------------------------

theorem afterGroup?_eq_none (absent : ¬separator <+: t) : afterGroup? separator t = none := by
  refine Option.eq_none_iff_forall_ne_some.mpr fun rest found => absent ?_
  obtain ⟨digits, start, _⟩ := Option.bind_eq_some_iff.mp found
  rw [List.isPrefixOf?_eq_some_iff_append_eq] at start
  exact ⟨digits, start⟩

theorem afterGroups_eq_nil (absent : ¬separator <+: t) (fuel : Nat)
    : afterGroups separator fuel t = [] := by
  cases fuel with
  | zero => rfl
  | succ fuel => simp [afterGroups, afterGroup?_eq_none absent]

/-- A text in which the separator does not occur has no groups. -/
theorem ungroup_of_not_infix (absent : ¬separator <:+: t) : ungroup separator t = t := by
  obtain ⟨sign, _, whole, same⟩ := ungroup_cases separator t
  have noGroups : [3, 2, 1].findSome? (afterGrouped? separator (Decimal.readSign t).2) = none := by
    rw [List.findSome?_eq_none_iff]
    intro head _
    have notHere : ¬separator <+: (Decimal.readSign t).2.drop head := by
      intro here
      have part : (Decimal.readSign t).2 <:+ t := ⟨sign, whole.symm⟩
      exact absent (here.isInfix.trans ((List.drop_suffix head _).trans part).isInfix)
    unfold afterGrouped?
    dsimp only
    rw [afterGroups_eq_nil notHere]
    simp
  rw [same, noGroups]

-----------------------------------------------------------------------------------------
-- Points as group separators
-----------------------------------------------------------------------------------------

variable {whole fraction : Text}

section Digits

variable (decimal : ∀ c ∈ whole, c.isDigit = true) (fractional : ∀ c ∈ fraction, c.isDigit = true)

include decimal in
theorem all_isAnyDigit : whole.all Text.isAnyDigit = true :=
  List.all_eq_true.mpr fun c member => Text.isAnyDigit_of_isDigit (decimal c member)

include decimal in
/-- A digit is no point, so that no group begins at one. -/
theorem not_point_prefix : ¬['.'] <+: whole := by
  rintro ⟨rest, rfl⟩
  exact absurd (decimal '.' (List.mem_append_left rest (List.mem_singleton_self '.'))) (by decide)

include decimal in
/-- No group begins before the point, where a digit stands. -/
theorem afterGrouped?_before_point {head : Nat} (short : head < whole.length)
    : afterGrouped? ['.'] (whole ++ '.' :: fraction) head = none := by
  have noGroup : ¬['.'] <+: (whole ++ '.' :: fraction).drop head := by
    rw [List.drop_append_of_le_length short.le, List.drop_eq_getElem_cons short, List.cons_append,
      List.cons_prefix_cons]
    rintro ⟨isPoint, _⟩
    exact absurd (isPoint ▸ decimal _ (List.getElem_mem short)) (by decide)
  unfold afterGrouped?
  dsimp only
  rw [afterGroups_eq_nil noGroup]
  simp

include fractional in
/-- One group begins at the point if there are three digits after it. -/
theorem afterGroups_point (fuel : Nat)
    : afterGroups ['.'] (fuel + 1) ('.' :: fraction)
      = if 3 ≤ fraction.length then [fraction.drop 3] else [] := by
  have three : (fraction.take 3).all Text.isAnyDigit = true :=
    all_isAnyDigit fun c member => fractional c (List.mem_of_mem_take member)
  have group : afterGroup? ['.'] ('.' :: fraction)
      = if 3 ≤ fraction.length then some (fraction.drop 3) else none := by
    have start : ['.'].isPrefixOf? ('.' :: fraction) = some fraction := by
      rw [List.isPrefixOf?_eq_some_iff_append_eq]
      rfl
    have enough : (fraction.take 3).length = 3 ↔ 3 ≤ fraction.length := by
      rw [List.length_take]
      omega
    simp only [afterGroup?, start, Option.bind_some, three, and_true, enough]
  rw [afterGroups, group]
  split_ifs with enough
  · dsimp only
    have noGroup : ¬['.'] <+: fraction.drop 3 :=
      not_point_prefix fun c member => fractional c (List.mem_of_mem_drop member)
    rw [afterGroups_eq_nil noGroup]
  · rfl

include decimal fractional in
/-- The group at the point counts if nothing follows it. -/
theorem afterGrouped?_at_point
    : afterGrouped? ['.'] (whole ++ '.' :: fraction) whole.length
      = if fraction.length = 3 then some [] else none := by
  have fuel : (whole ++ '.' :: fraction).length = (whole.length + fraction.length) + 1 := by
    simp only [List.length_append, List.length_cons]
    omega
  unfold afterGrouped?
  dsimp only
  rw [List.take_left, List.drop_left, fuel, afterGroups_point fractional,
    if_pos ⟨rfl, all_isAnyDigit decimal⟩]
  rcases Nat.lt_trichotomy fraction.length 3 with few | three | many
  · rw [if_neg (by omega), if_neg few.ne]
    rfl
  · rw [if_pos three.ge, if_pos three, List.drop_eq_nil_of_le three.le]
    rfl
  · have digit := Text.isAnyDigit_of_isDigit (fractional _ (List.getElem_mem many))
    rw [if_pos many.le, if_neg many.ne', List.drop_eq_getElem_cons many]
    simp [List.getElem?_eq_getElem many, digit]

/-- A head that goes on after a character that is no digit has more than digits. -/
theorem afterGrouped?_beyond {separator : Text} {c : Char} {head : Nat}
    (apart : Text.isAnyDigit c = false) (long : whole.length < head)
    : afterGrouped? separator (whole ++ c :: fraction) head = none := by
  have inHead : c ∈ (whole ++ c :: fraction).take head := by
    obtain ⟨k, rfl⟩ := Nat.exists_eq_add_of_lt long
    have more : whole.length + k + 1 - whole.length = k + 1 := by omega
    rw [List.take_append, more, List.take_succ_cons]
    exact List.mem_append_right _ List.mem_cons_self
  unfold afterGrouped?
  dsimp only
  rw [if_neg fun both => ?_]
  rw [List.all_eq_true.mp both.2 c inHead] at apart
  cases apart

include decimal fractional in
/-- One point is a group separator if three digits and nothing else follow it. -/
theorem afterGrouped?_point (head : Nat)
    : afterGrouped? ['.'] (whole ++ '.' :: fraction) head
      = if head = whole.length ∧ fraction.length = 3 then some [] else none := by
  rcases Nat.lt_trichotomy head whole.length with short | rfl | long
  · rw [afterGrouped?_before_point decimal short, if_neg fun both => short.ne both.1]
  · simp only [afterGrouped?_at_point decimal fractional, true_and]
  · rw [afterGrouped?_beyond (by decide) long, if_neg fun both => long.ne' both.1]

end Digits

/-- Every character but one is kept if that one is dropped where it stands. -/
theorem flatMap_drop_of_not_mem {c : Char} (absent : c ∉ t)
    : (t.flatMap fun d => if d = c then [] else [d]) = t := by
  have kept : ∀ d ∈ t, (if d = c then [] else [d]) = [d] :=
    fun d member => if_neg fun same : d = c => absent (same ▸ member)
  rw [List.flatMap_congr kept]
  exact List.flatMap_singleton' t

/-- A point is taken for a group separator between at most three digits and exactly three. -/
theorem ungroup_point {negative : Bool} {sign : Text}
    (signed : Literal.WritesSign negative sign) (decimal : ∀ c ∈ whole, c.isDigit = true)
    (nonempty : whole ≠ []) (fractional : ∀ c ∈ fraction, c.isDigit = true)
    : ungroup ['.'] (sign ++ (whole ++ '.' :: fraction))
      = if whole.length ≤ 3 ∧ fraction.length = 3 then sign ++ (whole ++ fraction)
        else sign ++ (whole ++ '.' :: fraction) := by
  have read : Decimal.readSign (sign ++ (whole ++ '.' :: fraction))
      = (negative, whole ++ '.' :: fraction) := by
    refine Literal.readSign_append signed fun c head => ?_
    cases whole with
    | nil => exact absurd rfl nonempty
    | cons d more =>
        cases head
        exact Literal.isDigit_ne_sign (decimal c List.mem_cons_self)
  obtain ⟨other, _, text, same⟩ := ungroup_cases ['.'] (sign ++ (whole ++ '.' :: fraction))
  rw [read] at text same
  cases List.append_cancel_right text
  have found : [3, 2, 1].findSome? (afterGrouped? ['.'] (whole ++ '.' :: fraction))
      = if whole.length ≤ 3 ∧ fraction.length = 3 then some [] else none := by
    have some : whole.length ≠ 0 := by simpa using nonempty
    simp only [List.findSome?_cons, afterGrouped?_point decimal fractional, List.findSome?_nil]
    split_ifs <;> first | rfl | omega
  have noPoint : '.' ∉ whole ++ fraction := by
    intro member
    rcases List.mem_append.mp member with inWhole | inFraction
    · exact absurd (decimal '.' inWhole) (by decide)
    · exact absurd (fractional '.' inFraction) (by decide)
  rw [List.mem_append, not_or] at noPoint
  have joined : Text.replaceAll ['.'] [] (whole ++ '.' :: fraction) = whole ++ fraction := by
    rw [Text.replaceAll_singleton, List.flatMap_append, List.flatMap_cons, if_pos rfl,
      flatMap_drop_of_not_mem noPoint.1, flatMap_drop_of_not_mem noPoint.2]
    rfl
  rw [same, found]
  split_ifs
  · dsimp only
    rw [List.length_nil, Nat.sub_zero, List.take_length, joined, List.append_nil]
  · rfl

end LiveIni.NumberFormat
