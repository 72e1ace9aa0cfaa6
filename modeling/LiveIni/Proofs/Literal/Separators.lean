import LiveIni.Proofs.Literal.Positional

/-!
Positional texts in number formats with any separators. Where the point is not the decimal separator,
it is a group separator or foreign: then a text with a point is no number, unless the point stands
between at most three digits and exactly three, which are read as if it were not there.
-/

namespace LiveIni

open Number
open Number.Decimal (withSign)
open Literal (pointed PositionalDigits)

/-- No digit and no sign stands in the separator. -/
def ApartFromNumbers (separator : Text) : Prop :=
  ∀ c ∈ separator, c.isDigit = false ∧ c ≠ '-' ∧ c ≠ '+'

/-- The separators can be told from each other and from numbers. -/
structure NumberFormat.Separated (format : NumberFormat) : Prop where
  distinct : format.decimalSeparator ≠ format.groupSeparator
  decimal : ApartFromNumbers format.decimalSeparator
  group : ApartFromNumbers format.groupSeparator

variable {whole : Text} {fraction : Option Text} {format : NumberFormat}

-----------------------------------------------------------------------------------------
-- Separators in positional texts
-----------------------------------------------------------------------------------------

namespace Literal.PositionalDigits

variable (digits : PositionalDigits whole fraction) (negative : Bool)
include digits

/-- A separator that occurs in a positional text is the point. -/
theorem not_infix {separator : Text} (apart : ApartFromNumbers separator)
    (nonempty : separator ≠ []) (other : separator = ['.'] → fraction = none)
    : ¬separator <:+: withSign negative (whole ++ pointed fraction) := by
  intro occurs
  have points : ∀ c ∈ separator, c = '.' := by
    intro c member
    obtain ⟨notDigit, notMinus, _⟩ := apart c member
    rcases digits.mem negative (occurs.subset member) with digit | isMinus | isPoint
    · rw [notDigit] at digit
      cases digit
    · exact absurd isMinus notMinus
    · exact isPoint
  have count := occurs.sublist.count_le '.'
  rw [digits.count_point, List.count_eq_length.mpr fun c member => (points c member).symm] at count
  match separator with
  | [] => exact nonempty rfl
  | [c] =>
      cases points c List.mem_cons_self
      rw [other rfl] at count
      exact Nat.not_succ_le_zero 0 count
  | c :: d :: rest =>
      rw [List.length_cons, List.length_cons] at count
      split at count <;> omega

/-- A positional text is not taken for a hexadecimal one. -/
theorem startsHex_eq_false
    : NumberFormat.startsHex (withSign negative (whole ++ pointed fraction)) = false := by
  have read : Decimal.readSign (withSign negative (whole ++ pointed fraction))
      = (negative, whole ++ pointed fraction) := by
    cases negative with
    | true => rfl
    | false =>
        cases whole with
        | nil => exact absurd rfl digits.nonempty
        | cons c rest =>
            obtain ⟨notMinus, notPlus⟩ := isDigit_ne_sign (digits.decimal c List.mem_cons_self)
            simp [withSign, Decimal.readSign, notMinus, notPlus]
  unfold NumberFormat.startsHex
  rw [read]
  dsimp only
  split
  · next x rest same =>
      have member : x ∈ whole ++ pointed fraction := by simp [same]
      rw [decide_eq_false_iff_not]
      intro isX
      have shape := digits.mem false member
      rcases eq_or_of_toLower ((fold_eq_iff (by decide)).mp isX) with rfl | rfl <;>
        revert shape <;> decide
  · rfl

end Literal.PositionalDigits

-----------------------------------------------------------------------------------------
-- Positional texts in the invariant format
-----------------------------------------------------------------------------------------

namespace NumberFormat

/-- A text without the group separators of a number that it begins with. -/
def ungrouped (format : NumberFormat) (t : Text) : Text :=
  if format.groupSeparator.isEmpty then t else ungroup format.groupSeparator t

theorem normalize?_of_not_hex {t : Text} (notHex : startsHex t = false)
    : format.normalize? t
      = if format.decimalSeparator = ['.'] then some (format.ungrouped t)
        else if (format.ungrouped t).contains '.' then none
        else some (Text.replaceAll format.decimalSeparator ['.'] (format.ungrouped t)) := by
  rw [normalize?, notHex]
  rfl

/-- The point of the text is a group separator of the format, and would separate groups there. -/
def MergesAtPoint (format : NumberFormat) (whole : Text) (fraction : Option Text) : Prop :=
  format.groupSeparator = ['.'] ∧ whole.length ≤ 3 ∧ fraction.map List.length = some 3

section Positional

variable (digits : PositionalDigits whole fraction) (negative : Bool)
include digits

/-- Only a point is a group separator in a positional text. -/
theorem ungrouped_of_not_merges (apart : ApartFromNumbers format.groupSeparator)
    (kept : ¬format.MergesAtPoint whole fraction)
    : format.ungrouped (withSign negative (whole ++ pointed fraction))
      = withSign negative (whole ++ pointed fraction) := by
  unfold ungrouped
  split
  · rfl
  · next some =>
      rw [List.isEmpty_iff] at some
      by_cases other : format.groupSeparator = ['.'] → fraction = none
      · exact ungroup_of_not_infix (digits.not_infix negative apart some other)
      · push Not at other
        obtain ⟨point, pointed⟩ := other
        obtain ⟨after, rfl⟩ := Option.ne_none_iff_exists'.mp pointed
        have noGroup : ¬(whole.length ≤ 3 ∧ after.length = 3) :=
          fun both => kept ⟨point, both.1, congrArg Option.some both.2⟩
        rw [point, Literal.withSign_eq_append, Literal.pointed,
          ungroup_point (Literal.writesSign_withSign negative) digits.decimal digits.nonempty
            (digits.fractional after rfl), if_neg noGroup]

theorem ungrouped_of_merges (merges : format.MergesAtPoint whole fraction)
    : format.ungrouped (withSign negative (whole ++ pointed fraction))
      = withSign negative (whole ++ fraction.getD [] ++ pointed none) := by
  obtain ⟨point, short, three⟩ := merges
  obtain ⟨after, rfl, length⟩ := Option.map_eq_some_iff.mp three
  rw [ungrouped, point, Literal.withSign_eq_append, Literal.withSign_eq_append negative (_ ++ _),
    Literal.pointed, Literal.pointed, List.append_nil]
  rw [if_neg (by decide), ungroup_point (Literal.writesSign_withSign negative) digits.decimal
    digits.nonempty (digits.fractional after rfl), if_pos ⟨short, length⟩]
  rfl

theorem contains_point
    : (withSign negative (whole ++ pointed fraction)).contains '.' = fraction.isSome := by
  have count := digits.count_point negative
  cases fraction with
  | none => simpa using List.count_eq_zero.mp count
  | some after => simpa using List.count_pos_iff.mp (Nat.lt_of_lt_of_eq Nat.one_pos count.symm)

end Positional

-----------------------------------------------------------------------------------------
-- What positional texts write
-----------------------------------------------------------------------------------------

section Writing

variable (separated : format.Separated) (digits : PositionalDigits whole fraction)
  (negative : Bool)
include separated digits

/-- A positional text writes its digits if the point is the decimal separator, or if it has none. -/
theorem Separated.writes_positional (nonempty : format.decimalSeparator ≠ [])
    (kept : format.decimalSeparator = ['.'] ∨ fraction = none)
    : let t := withSign negative (whole ++ pointed fraction)
      format.Writes (Literal.positional negative whole fraction) t t := by
  have apart : ¬format.MergesAtPoint whole fraction := by
    rintro ⟨point, _, three⟩
    rcases kept with decimal | none
    · exact separated.distinct (decimal.trans point.symm)
    · rw [none] at three
      cases three
  have normal : format.normalize? (withSign negative (whole ++ pointed fraction))
      = some (withSign negative (whole ++ pointed fraction)) := by
    rw [normalize?_of_not_hex (digits.startsHex_eq_false negative),
      ungrouped_of_not_merges digits negative separated.group apart]
    split
    · rfl
    · next other =>
        have none := kept.resolve_left other
        have absent := digits.not_infix negative separated.decimal nonempty fun _ => none
        rw [contains_point digits, none, Text.replaceAll_of_not_infix nonempty (none ▸ absent)]
        rfl
  refine ⟨by rw [digits.strip_eq, normal], ?_⟩
  rw [Literal.plain_of_plainLetters (digits.plainLetters negative)]
  exact digits.writes negative

/-- Without its point, a text that merges there writes an integer. -/
theorem Separated.writes_merged (nonempty : format.decimalSeparator ≠ [])
    (merges : format.MergesAtPoint whole fraction)
    : format.Writes (Literal.positional negative (whole ++ fraction.getD []) none)
        (withSign negative (whole ++ pointed fraction))
        (withSign negative (whole ++ fraction.getD [] ++ pointed none)) := by
  have other : format.decimalSeparator ≠ ['.'] := fun same =>
    separated.distinct (same.trans merges.1.symm)
  have absent := digits.merged.not_infix negative separated.decimal nonempty fun _ => rfl
  have normal : format.normalize? (withSign negative (whole ++ pointed fraction))
      = some (withSign negative (whole ++ fraction.getD [] ++ pointed none)) := by
    rw [normalize?_of_not_hex (digits.startsHex_eq_false negative),
      ungrouped_of_merges digits negative merges, if_neg other, contains_point digits.merged,
      Text.replaceAll_of_not_infix nonempty absent]
    rfl
  refine ⟨by rw [digits.strip_eq, normal], ?_⟩
  rw [Literal.plain_of_plainLetters (digits.merged.plainLetters negative)]
  exact digits.merged.writes negative

/-- A point that neither is the decimal separator nor merges groups is foreign. -/
theorem Separated.not_writes_foreign (other : format.decimalSeparator ≠ ['.']) (pointed : fraction.isSome)
    (kept : ¬format.MergesAtPoint whole fraction)
    : ∀ l normalized,
        ¬format.Writes l (withSign negative (whole ++ Literal.pointed fraction)) normalized := by
  intro l normalized writes
  have normal := writes.normal
  rw [digits.strip_eq, normalize?_of_not_hex (digits.startsHex_eq_false negative),
    ungrouped_of_not_merges digits negative separated.group kept, if_neg other,
    contains_point digits, if_pos pointed] at normal
  cases normal

/-- With an empty decimal separator there would be points all over a text. -/
theorem Separated.not_writes_without_separator (empty : format.decimalSeparator = [])
    : ∀ l normalized,
        ¬format.Writes l (withSign negative (whole ++ pointed fraction)) normalized := by
  intro l normalized writes
  have signed {t : Text} (nonempty : t ≠ []) : withSign negative t ≠ [] := by
    cases negative with
    | true => exact List.cons_ne_nil '-' t
    | false => exact nonempty
  have nonempty : format.ungrouped (withSign negative (whole ++ pointed fraction)) ≠ [] := by
    by_cases merges : format.MergesAtPoint whole fraction
    · rw [ungrouped_of_merges digits negative merges]
      exact signed (by simp [digits.nonempty])
    · rw [ungrouped_of_not_merges digits negative separated.group merges]
      exact signed (by simp [digits.nonempty])
  obtain ⟨c, rest, text⟩ := List.exists_cons_of_ne_nil nonempty
  have other : format.decimalSeparator ≠ ['.'] := by simp [empty]
  have normal := writes.normal
  rw [digits.strip_eq, normalize?_of_not_hex (digits.startsHex_eq_false negative), if_neg other,
    empty, text] at normal
  split at normal
  · cases normal
  · cases normal
    have bound : ('.' :: Literal.plainLetter c :: '.' :: Literal.plain _).count '.' ≤ 1 :=
      writes.plain.count_point_le
    simp only [List.count_cons_self, List.count_cons] at bound
    omega

end Writing

end NumberFormat

end LiveIni
