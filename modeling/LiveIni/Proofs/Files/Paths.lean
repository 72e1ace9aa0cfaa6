import LiveIni.Path
import Mathlib.Data.List.Basic

/-!
Resolved paths and their texts. A resolved path consists of parts that each lead one directory down,
so that resolving it again changes nothing, and two of them with one text are the same path.
-/

namespace LiveIni

-----------------------------------------------------------------------------------------
-- Splitting a text
-----------------------------------------------------------------------------------------

namespace Text

/-- A text is split as any list is. -/
theorem splitAt_eq_splitOn (c : Char) (t : Text) : splitAt c t = t.splitOn c := by
  induction t with
  | nil => rfl
  | cons d rest ih =>
      rw [List.splitOn_cons_eq_if_modifyHead, ← ih]
      unfold splitAt
      rw [List.foldr_cons]
      by_cases same : d = c
      · simp [same]
      · simp [same]

/-- What a text is split at is in none of the parts, by induction on the text. -/
theorem not_mem_of_mem_splitAt {c : Char} {t part : Text} (member : part ∈ splitAt c t)
    : c ∉ part := by
  rw [splitAt_eq_splitOn] at member
  induction t generalizing part with
  | nil => simp_all
  | cons d rest ih =>
      rw [List.splitOn_cons_eq_if_modifyHead] at member
      by_cases same : d = c
      · simp only [same, beq_self_eq_true, if_true, List.mem_cons] at member
        rcases member with rfl | later
        · exact List.not_mem_nil
        · exact ih later
      · obtain ⟨first, more, parts⟩ := List.exists_cons_of_ne_nil (List.splitOn_ne_nil c rest)
        simp only [beq_iff_eq, same, if_false, parts, List.modifyHead_cons, List.mem_cons] at member
        rcases member with rfl | later
        · have apart := ih (parts ▸ List.mem_cons_self)
          simpa [Ne.symm same] using apart
        · exact ih (parts ▸ List.mem_cons_of_mem _ later)

end Text

namespace Path

-----------------------------------------------------------------------------------------
-- Parts that lead down
-----------------------------------------------------------------------------------------

/-- A part of a path that stands for something in a directory. -/
def LeadsDown (part : Text) : Prop :=
  part ≠ [] ∧ part ≠ ['.'] ∧ part ≠ ['.', '.'] ∧ '/' ∉ part

/-- All parts of the path lead down, from the root or from the working directory. -/
def Descends (p : Path) : Prop :=
  ∃ root parts, (root = [] ∨ root = [[]]) ∧ p.parts = root ++ parts
    ∧ ∀ part ∈ parts, LeadsDown part

/-- The path is what some text leads to. -/
def IsResolved (p : Path) : Prop :=
  ∃ name, p = (ofText name).resolved

section Entering

variable {root : List Text} (base : root = [] ∨ root = [[]])

include base in
theorem foldl_enter_root : root.foldl enter [] = root := by
  rcases base with rfl | rfl <;> rfl

include base in
theorem reverse_root : root.reverse = root := by
  rcases base with rfl | rfl <;> rfl

include base in
/-- A part of two points takes back the last one, and at the start it leads nowhere. -/
theorem enter_up {above : List Text} (down : ∀ part ∈ above, LeadsDown part)
    : enter (above ++ root) ['.', '.'] = above.drop 1 ++ root := by
  rw [enter, if_pos rfl]
  cases above with
  | nil => rcases base with rfl | rfl <;> rfl
  | cons last above =>
      have notRoot : last :: above ++ root ≠ [[]] := fun same =>
        (down last List.mem_cons_self).1 (List.cons.inj same).1
      rw [if_neg notRoot]
      rfl

include base in
/-- Entering parts leaves some that lead down, by induction on the parts. -/
theorem foldl_enter {above parts : List Text} (down : ∀ part ∈ above, LeadsDown part)
    (proper : ∀ part ∈ parts, part ≠ [] ∧ part ≠ ['.'] ∧ '/' ∉ part)
    : ∃ entered, parts.foldl enter (above ++ root) = entered ++ root
        ∧ ∀ part ∈ entered, LeadsDown part := by
  induction parts generalizing above with
  | nil => exact ⟨above, rfl, down⟩
  | cons part rest ih =>
      obtain ⟨first, more⟩ := List.forall_mem_cons.mp proper
      rw [List.foldl_cons]
      by_cases up : part = ['.', '.']
      · rw [up, enter_up base down]
        exact ih (fun part member => down part (List.mem_of_mem_drop member)) more
      · have entered : enter (above ++ root) part = (part :: above) ++ root := if_neg up
        rw [entered]
        exact ih (List.forall_mem_cons.mpr ⟨⟨first.1, first.2.1, up, first.2.2⟩, down⟩) more

/-- Parts that lead down are entered one after the other, by induction on the parts. -/
theorem foldl_enter_of_leadsDown {parts : List Text} (down : ∀ part ∈ parts, LeadsDown part)
    (above : List Text)
    : parts.foldl enter above = parts.reverse ++ above := by
  induction parts generalizing above with
  | nil => rfl
  | cons part rest ih =>
      obtain ⟨first, more⟩ := List.forall_mem_cons.mp down
      rw [List.foldl_cons, enter, if_neg first.2.2.1, ih more]
      simp

end Entering

/-- What a text leads to is a path that leads down only. -/
theorem IsResolved.descends {p : Path} (resolved : p.IsResolved) : p.Descends := by
  obtain ⟨name, rfl⟩ := resolved
  obtain ⟨root, parts, base, shape, proper⟩
      : ∃ root parts, (root = [] ∨ root = [[]]) ∧ (ofText name).parts = root ++ parts
          ∧ ∀ part ∈ parts, part ≠ [] ∧ part ≠ ['.'] ∧ '/' ∉ part := by
    have proper (part : Text)
        (member : part ∈ (Text.splitAt '/' name).filter fun part => part ≠ [] && part ≠ ['.'])
        : part ≠ [] ∧ part ≠ ['.'] ∧ '/' ∉ part := by
      obtain ⟨inText, shown⟩ := List.mem_filter.mp member
      simp only [Bool.and_eq_true, decide_eq_true_eq] at shown
      exact ⟨shown.1, shown.2, Text.not_mem_of_mem_splitAt inText⟩
    unfold ofText
    dsimp only
    split
    · exact ⟨[[]], _, .inr rfl, rfl, proper⟩
    · exact ⟨[], _, .inl rfl, rfl, proper⟩
  obtain ⟨entered, folded, down⟩ := @foldl_enter root base [] parts nofun proper
  refine ⟨root, entered.reverse, base, ?_, by simpa using down⟩
  rw [List.nil_append] at folded
  rw [Path.resolved, shape, List.foldl_append, foldl_enter_root base, folded, List.reverse_append,
    reverse_root base]

/-- A path that leads down is resolved to itself. -/
theorem Descends.resolved_eq {p : Path} (descends : p.Descends) : p.resolved = p := by
  obtain ⟨root, parts, base, shape, down⟩ := descends
  obtain ⟨all⟩ := p
  subst shape
  rw [Path.resolved, List.foldl_append, foldl_enter_root base, foldl_enter_of_leadsDown down,
    List.reverse_append, List.reverse_reverse, reverse_root base]

-----------------------------------------------------------------------------------------
-- The text of a path
-----------------------------------------------------------------------------------------

/-- The text of a path that leads down is read as that path. -/
theorem Descends.ofText_text {p : Path} (descends : p.Descends) : ofText p.text = p := by
  obtain ⟨root, parts, base, shape, down⟩ := descends
  obtain ⟨all⟩ := p
  subst shape
  cases parts with
  | nil => rcases base with rfl | rfl <;> rfl
  | cons first rest =>
      have proper := down first List.mem_cons_self
      have kept
          : (first :: rest).filter (fun part => part ≠ [] && part ≠ ['.']) = first :: rest :=
        List.filter_eq_self.mpr fun part member => by
          simp [(down part member).1, (down part member).2.1]
      have apart : ∀ part ∈ root ++ first :: rest, '/' ∉ part := by
        intro part member
        rcases List.mem_append.mp member with atRoot | later
        · rcases base with rfl | rfl
          · cases atRoot
          · simp_all
        · exact (down part later).2.2.2
      have written : text ⟨root ++ first :: rest⟩ = ['/'].intercalate (root ++ first :: rest) := by
        have some : root ++ first :: rest ≠ [] := by simp
        have notRoot : root ++ first :: rest ≠ [[]] := by
          rcases base with rfl | rfl
          · simp [proper.1]
          · simp
        simp only [text, some, if_false, notRoot]
      have split
          : Text.splitAt '/' (['/'].intercalate (root ++ first :: rest)) = root ++ first :: rest :=
        (Text.splitAt_eq_splitOn _ _).trans (List.splitOn_intercalate '/' apart (by simp))
      obtain ⟨c, more, rfl⟩ := List.exists_cons_of_ne_nil proper.1
      have noSlash : c ≠ '/' := fun same => proper.2.2.2 (same ▸ List.mem_cons_self)
      rw [written, ofText, split, List.filter_append, kept]
      rcases base with rfl | rfl
      · cases rest with
        | nil => simp [noSlash]
        | cons next rest => simp [noSlash]
      · simp

/-- Paths that lead down are the same if their texts are. -/
theorem Descends.text_injective {p q : Path} (down : p.Descends) (other : q.Descends)
    (same : p.text = q.text)
    : p = q := by
  rw [← down.ofText_text, same, other.ofText_text]

end Path

end LiveIni
