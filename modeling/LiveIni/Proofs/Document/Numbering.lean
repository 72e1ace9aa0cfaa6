import LiveIni.Document.Builder
import LiveIni.Proofs.Document.Tables

/-!
The made-up names of comments. A section always has a free one, the search finds the least, and
what the search finds does not depend on where it starts as long as nothing free is passed over.
-/

namespace LiveIni

namespace Builder

/-- Comments with different numbers have different names, since a number can be read back from
its digits.
-/
theorem commentName_injective {m n : Nat} (same : commentName m = commentName n) : m = n := by
  have digits : Nat.toDigits 10 m = Nat.toDigits 10 n := List.append_cancel_left same
  have read := congrArg (fun t => Nat.ofDigitChars 10 t 0) digits
  simpa only [Nat.ofDigitChars_ten_toDigits] using read

variable {entries : Entries} {tries start : Nat}

theorem start_le_freeNumber : start ≤ freeNumber entries tries start := by
  induction tries generalizing start with
  | zero => exact Nat.le_refl start
  | succ tries ih =>
      rw [freeNumber]
      split
      · exact Nat.le_of_succ_le ih
      · exact Nat.le_refl start

/-- Every number that the search passes over is in use, by induction on the tries. -/
theorem mem_names_of_lt_freeNumber {k : Nat} (begun : start ≤ k)
    (passed : k < freeNumber entries tries start)
    : commentName k ∈ entries.names := by
  induction tries generalizing start with
  | zero =>
      rw [freeNumber] at passed
      omega
  | succ tries ih =>
      rw [freeNumber] at passed
      split at passed
      · next used =>
          rcases Nat.eq_or_lt_of_le begun with rfl | later
          · exact Table.has_eq_true_iff.mp used
          · exact ih later passed
      · omega

/-- A search that ends on a name in use has used up its tries. -/
theorem freeNumber_eq_of_mem_names
    (used : commentName (freeNumber entries tries start) ∈ entries.names)
    : freeNumber entries tries start = start + tries := by
  induction tries generalizing start with
  | zero => rfl
  | succ tries ih =>
      rw [freeNumber] at used ⊢
      split at used
      · next taken =>
          rw [if_pos taken, ih used]
          omega
      · next free => exact absurd (Table.has_eq_true_iff.mpr used) free

/-- Of one number more than there are entries, at least one is free, since different numbers
make different names.
-/
theorem exists_free (entries : Entries) (start : Nat)
    : ∃ k, start ≤ k ∧ k < start + (entries.length + 1) ∧ commentName k ∉ entries.names := by
  apply Classical.byContradiction
  intro none
  have distinct : ((List.range' start (entries.length + 1)).map commentName).Nodup :=
    List.Pairwise.map commentName
      (fun _ _ different same => different (commentName_injective same)) (List.nodup_range' 1)
  have used : (List.range' start (entries.length + 1)).map commentName ⊆ entries.names := by
    intro name member
    obtain ⟨k, inRange, rfl⟩ := List.mem_map.mp member
    obtain ⟨least, greatest⟩ := List.mem_range'_1.mp inRange
    exact Classical.byContradiction fun free => none ⟨k, least, greatest, free⟩
  have bound := distinct.length_le_of_subset used
  rw [List.length_map, List.length_range', Table.names, List.length_map] at bound
  omega

/-- With one try more than there are entries, the search finds a free number. -/
theorem freeNumber_not_mem (entries : Entries) (start : Nat)
    : commentName (freeNumber entries (entries.length + 1) start) ∉ entries.names := by
  intro used
  obtain ⟨k, least, greatest, free⟩ := exists_free entries start
  rw [← freeNumber_eq_of_mem_names used] at greatest
  exact free (mem_names_of_lt_freeNumber least greatest)

/-- Numbers that are in use may be left out of the search. -/
theorem freeNumber_eq_of_used {first : Nat} (begun : first ≤ start)
    (used : ∀ k, first ≤ k → k < start → commentName k ∈ entries.names)
    : freeNumber entries (entries.length + 1) start
      = freeNumber entries (entries.length + 1) first := by
  have free := freeNumber_not_mem entries
  rcases Nat.lt_trichotomy (freeNumber entries (entries.length + 1) start)
    (freeNumber entries (entries.length + 1) first) with below | same | above
  · have later : start ≤ freeNumber entries (entries.length + 1) start := start_le_freeNumber
    exact absurd (mem_names_of_lt_freeNumber (Nat.le_trans begun later) below) (free start)
  · exact same
  · -- What the longer search finds was either left out as used or passed over.
    by_cases skipped : freeNumber entries (entries.length + 1) first < start
    · exact absurd (used _ start_le_freeNumber skipped) (free first)
    · exact absurd (mem_names_of_lt_freeNumber (Nat.le_of_not_lt skipped) above) (free first)

end Builder

namespace Entries

/-- The first made-up name that is free. -/
def freeName (entries : Entries) : Text :=
  Builder.commentName (Builder.freeNumber entries (entries.length + 1) 1)

theorem freeName_not_mem (entries : Entries) : entries.freeName ∉ entries.names :=
  Builder.freeNumber_not_mem entries 1

end Entries

end LiveIni
