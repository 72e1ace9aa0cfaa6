import LiveIni.Text.Blank
import Mathlib.Data.List.TakeDrop

/-!
Cutting texts in two at a character or after a run of characters, and trimming the blanks at their
ends: where the parts come from, and which texts have given parts.
-/

namespace LiveIni.Text

/-- A text is cut at the first of some characters: none of them stands in the first part. -/
theorem cutAt?_eq_some_iff {c : Char} {t before after : Text}
    : cutAt? c t = some (before, after) ↔ t = before ++ c :: after ∧ c ∉ before := by
  induction t generalizing before with
  | nil => simp [cutAt?]
  | cons d rest ih =>
      by_cases same : d = c
      · subst same
        rw [cutAt?, if_pos rfl, Option.some.injEq, Prod.mk.injEq]
        constructor
        · rintro ⟨rfl, rfl⟩
          exact ⟨rfl, List.not_mem_nil⟩
        · rintro ⟨whole, absent⟩
          cases before with
          | nil => exact ⟨rfl, (List.cons.inj whole).2⟩
          | cons e more =>
              rw [(List.cons.inj whole).1] at absent
              exact absurd List.mem_cons_self absent
      · rw [cutAt?, if_neg same, Option.map_eq_some_iff]
        constructor
        · rintro ⟨⟨first, last⟩, cut, parts⟩
          cases parts
          obtain ⟨rfl, absent⟩ := ih.mp cut
          exact ⟨rfl, List.not_mem_cons_of_ne_of_not_mem (Ne.symm same) absent⟩
        · rintro ⟨whole, absent⟩
          cases before with
          | nil => exact absurd (List.cons.inj whole).1 same
          | cons e more =>
              obtain ⟨rfl, rfl⟩ := List.cons.inj whole
              exact ⟨(more, after), ih.mpr ⟨rfl, List.not_mem_of_not_mem_cons absent⟩, rfl⟩

theorem cutAt?_eq_none_iff {c : Char} {t : Text} : cutAt? c t = none ↔ c ∉ t := by
  induction t with
  | nil => simp [cutAt?]
  | cons d rest ih =>
      by_cases same : d = c
      · simp [cutAt?, same]
      · simp [cutAt?, same, ih, Ne.symm same]

/-- A text is cut at the last of some characters: none of them stands in the second part. -/
theorem cutAtLast?_eq_some_iff {c : Char} {t before after : Text}
    : cutAtLast? c t = some (before, after) ↔ t = before ++ c :: after ∧ c ∉ after := by
  rw [cutAtLast?, Option.map_eq_some_iff]
  constructor
  · rintro ⟨⟨first, last⟩, cut, parts⟩
    cases parts
    obtain ⟨whole, absent⟩ := cutAt?_eq_some_iff.mp cut
    refine ⟨?_, fun member => absent (List.mem_reverse.mp member)⟩
    have turned := congrArg List.reverse whole
    rwa [List.reverse_reverse, List.reverse_append, List.reverse_cons, List.append_assoc]
      at turned
  · rintro ⟨rfl, absent⟩
    refine ⟨(after.reverse, before.reverse), cutAt?_eq_some_iff.mpr ⟨?_, ?_⟩, ?_⟩
    · rw [List.reverse_append, List.reverse_cons, List.append_assoc]
      rfl
    · exact fun member => absent (List.mem_reverse.mp member)
    · exact Prod.ext (List.reverse_reverse before) (List.reverse_reverse after)

theorem cutAtLast?_eq_none_iff {c : Char} {t : Text} : cutAtLast? c t = none ↔ c ∉ t := by
  rw [cutAtLast?, Option.map_eq_none_iff, cutAt?_eq_none_iff, List.mem_reverse]

/-- A text is cut into a run of characters that satisfy `p`, and a rest that does not go on so. -/
theorem span_eq_iff {p : Char → Bool} {t run rest : Text}
    : t.span p = (run, rest)
      ↔ t = run ++ rest ∧ (∀ c ∈ run, p c = true) ∧ ∀ c ∈ rest.head?, p c = false := by
  rw [List.span_eq_takeWhile_dropWhile, Prod.mk.injEq]
  constructor
  · rintro ⟨rfl, rfl⟩
    refine ⟨List.takeWhile_append_dropWhile.symm, List.all_eq_true.mp List.all_takeWhile, ?_⟩
    intro c head
    have stops := List.head?_dropWhile_not p t
    rw [Option.mem_def.mp head] at stops
    exact stops
  · rintro ⟨rfl, all, stops⟩
    rw [List.takeWhile_append_of_pos all, List.dropWhile_append_of_pos all]
    cases rest with
    | nil => simp
    | cons c more => simp [stops c rfl]

-----------------------------------------------------------------------------------------
-- Trimming
-----------------------------------------------------------------------------------------

variable {p : Char → Bool}

theorem exists_eq_append_dropWhile (p : Char → Bool) (t : Text)
    : ∃ dropped, t = dropped ++ t.dropWhile p ∧ dropped.all p = true :=
  ⟨t.takeWhile p, List.takeWhile_append_dropWhile.symm, List.all_takeWhile⟩

theorem exists_eq_dropEndWhile_append (p : Char → Bool) (t : Text)
    : ∃ dropped, t = dropEndWhile p t ++ dropped ∧ dropped.all p = true := by
  obtain ⟨dropped, whole, all⟩ := exists_eq_append_dropWhile p t.reverse
  refine ⟨dropped.reverse, ?_, by rw [List.all_reverse, all]⟩
  have turned := congrArg List.reverse whole
  rwa [List.reverse_reverse, List.reverse_append] at turned

theorem dropWhile_dropWhile (p : Char → Bool) (t : Text)
    : (t.dropWhile p).dropWhile p = t.dropWhile p := by
  induction t with
  | nil => rfl
  | cons c rest ih =>
      by_cases drops : p c = true
      · rw [List.dropWhile_cons_of_pos drops, ih]
      · rw [List.dropWhile_cons_of_neg drops, List.dropWhile_cons_of_neg drops]

/-- Trimming leaves no character at the start that would be dropped. -/
theorem dropWhile_trim (p : Char → Bool) (t : Text) : (trim p t).dropWhile p = trim p t := by
  obtain ⟨dropped, whole, _⟩ := exists_eq_dropEndWhile_append p (t.dropWhile p)
  change t.dropWhile p = trim p t ++ dropped at whole
  have kept := dropWhile_dropWhile p t
  cases trimmed : trim p t with
  | nil => rfl
  | cons c rest =>
      rw [whole, trimmed, List.cons_append] at kept
      by_cases drops : p c = true
      · rw [List.dropWhile_cons_of_pos drops] at kept
        have shorter := congrArg List.length kept
        have bound := (List.dropWhile_sublist p (l := rest ++ dropped)).length_le
        rw [shorter, List.length_cons] at bound
        omega
      · exact List.dropWhile_cons_of_neg drops

theorem trim_trim (p : Char → Bool) (t : Text) : trim p (trim p t) = trim p t := by
  rw [trim, dropWhile_trim, trim, dropEndWhile, dropEndWhile, List.reverse_reverse,
    dropWhile_dropWhile]

theorem dropWhile_of_forall {t : Text} (kept : ∀ c ∈ t, p c = false) : t.dropWhile p = t := by
  cases t with
  | nil => rfl
  | cons c rest => exact List.dropWhile_cons_of_neg (by simp [kept c List.mem_cons_self])

/-- A text is kept if none of its characters would be dropped. -/
theorem trim_of_forall {t : Text} (kept : ∀ c ∈ t, p c = false) : trim p t = t := by
  rw [trim, dropWhile_of_forall kept, dropEndWhile,
    dropWhile_of_forall fun c member => kept c (List.mem_reverse.mp member), List.reverse_reverse]

/-- A text is its stripped text with blanks around it. -/
theorem exists_eq_strip (t : Text)
    : ∃ lead trail, t = lead ++ strip t ++ trail ∧ isBlankLine lead = true
        ∧ isBlankLine trail = true := by
  obtain ⟨lead, first, leadBlank⟩ := exists_eq_append_dropWhile isBlank t
  obtain ⟨trail, second, trailBlank⟩ := exists_eq_dropEndWhile_append isBlank (t.dropWhile isBlank)
  refine ⟨lead, trail, ?_, leadBlank, trailBlank⟩
  rw [List.append_assoc]
  exact first.trans (congrArg (lead ++ ·) second)

theorem strip_of_forall {t : Text} (kept : ∀ c ∈ t, isBlank c = false) : strip t = t :=
  trim_of_forall kept

theorem not_isBlank_of_isDigit {c : Char} (digit : c.isDigit = true) : isBlank c = false := by
  simp only [Char.isDigit, Bool.and_eq_true, decide_eq_true_eq] at digit
  have low : 48 ≤ c.toNat := UInt32.le_iff_toNat_le.mp digit.1
  have high : c.toNat ≤ 57 := UInt32.le_iff_toNat_le.mp digit.2
  simp [isBlank, inRanges, blankRanges]
  omega

theorem strip_strip (t : Text) : strip (strip t) = strip t :=
  trim_trim isBlank t

end LiveIni.Text
