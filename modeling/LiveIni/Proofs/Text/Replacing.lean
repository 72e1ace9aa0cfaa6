import LiveIni.Text
import Mathlib.Data.List.Infix

/-!
Replacing parts of a text: where the characters come from, and which texts stay as they are.
-/

namespace LiveIni.Text

variable {old new : Text}

/-- The steps that replace every occurrence of a text that is not empty. -/
def replacing (old new : Text) (c : Char) (rest : Text) : Text × Nat :=
  if old.isPrefixOf (c :: rest) then (new, old.length - 1) else ([c], 0)

theorem replaceAll_of_ne_nil (nonempty : old ≠ []) (t : Text)
    : replaceAll old new t = (scanFrom (replacing old new) 0 t).flatten := by
  unfold replaceAll
  rw [if_neg (by simpa using nonempty)]
  rfl

/-- What is replaced at the start of a text is passed over. -/
theorem replaceAll_append (nonempty : old ≠ []) (rest : Text)
    : replaceAll old new (old ++ rest) = new ++ replaceAll old new rest := by
  cases old with
  | nil => exact absurd rfl nonempty
  | cons c more =>
      have here : (c :: more).isPrefixOf (c :: (more ++ rest)) = true := by
        simp [List.isPrefixOf_iff_prefix]
      simp only [replaceAll_of_ne_nil nonempty, List.cons_append, scanFrom, replacing, here,
        if_true, scanFrom_eq_scan_drop, List.flatten_cons, List.length_cons, Nat.add_sub_cancel,
        List.drop_left, List.drop_zero]

/-- A character at which nothing is replaced stays. -/
theorem replaceAll_cons {c : Char} {rest : Text} (nonempty : old ≠ [])
    (notHere : ¬old <+: c :: rest)
    : replaceAll old new (c :: rest) = c :: replaceAll old new rest := by
  have isNotHere : ¬old.isPrefixOf (c :: rest) = true := by
    simpa only [List.isPrefixOf_iff_prefix] using notHere
  simp [replaceAll_of_ne_nil nonempty, scanFrom, replacing, isNotHere]

/-- Every character after replacing was there before or is new, by induction on the text. -/
theorem mem_scanFrom_replacing {c : Char} {t : Text} {skip : Nat}
    (member : c ∈ (scanFrom (replacing old new) skip t).flatten)
    : c ∈ new ∨ c ∈ t := by
  induction t generalizing skip with
  | nil => cases skip <;> simp [scanFrom] at member
  | cons d rest ih =>
      have later {skip : Nat} (member : c ∈ (scanFrom (replacing old new) skip rest).flatten)
          : c ∈ new ∨ c ∈ d :: rest :=
        (ih member).imp_right (List.mem_cons_of_mem d)
      cases skip with
      | succ skip => exact later member
      | zero =>
          rw [scanFrom, List.flatten_cons, List.mem_append] at member
          rcases member with here | onwards
          · unfold replacing at here
            split at here
            · exact .inl here
            · exact .inr (List.mem_cons.mpr (.inl (List.mem_singleton.mp here)))
          · exact later onwards

theorem mem_replaceAll {c : Char} {t : Text} (member : c ∈ replaceAll old new t)
    : c ∈ new ∨ c ∈ t := by
  by_cases empty : old = []
  · subst empty
    simp only [replaceAll, List.isEmpty_nil, if_true, List.mem_append, List.mem_flatMap,
      List.mem_cons] at member
    rcases member with isNew | ⟨d, there, rfl | isNew⟩
    · exact .inl isNew
    · exact .inr there
    · exact .inl isNew
  · rw [replaceAll_of_ne_nil empty] at member
    exact mem_scanFrom_replacing member

/-- Nothing is replaced in a text in which the old part does not occur, by induction on the text. -/
theorem replaceAll_of_not_infix {t : Text} (nonempty : old ≠ []) (absent : ¬old <:+: t)
    : replaceAll old new t = t := by
  rw [replaceAll_of_ne_nil nonempty]
  induction t with
  | nil => rfl
  | cons c rest ih =>
      rw [List.infix_cons_iff, not_or] at absent
      have notHere : ¬old.isPrefixOf (c :: rest) = true := by
        rw [List.isPrefixOf_iff_prefix]
        exact absent.1
      rw [scanFrom, replacing, if_neg notHere, List.flatten_cons, ih absent.2]
      rfl

/-- One character is replaced wherever it stands, by induction on the text. -/
theorem replaceAll_singleton (c : Char) (t : Text)
    : replaceAll [c] new t = t.flatMap fun d => if d = c then new else [d] := by
  rw [replaceAll_of_ne_nil (List.cons_ne_nil c [])]
  induction t with
  | nil => rfl
  | cons d rest ih =>
      rw [scanFrom, replacing, List.flatMap_cons]
      by_cases same : d = c
      · subst same
        simp [ih]
      · have different : ¬c = d := Ne.symm same
        simp [same, different, ih]

end LiveIni.Text
