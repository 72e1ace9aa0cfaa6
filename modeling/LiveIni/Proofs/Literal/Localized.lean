import LiveIni.Proofs.Literal.Characters
import LiveIni.Proofs.Literal.Groups
import LiveIni.Proofs.Literal.Separators

/-!
Literals in number formats with one-character separators. Such a text is a literal of the invariant
format, with the decimal separator in the place of the point and possibly with groups before it, and
it is that literal that the text is brought to. Every text that is brought to a literal is of this
form.
-/

namespace LiveIni

open Number
open Literal (IsPart)

/-- The character can be told from the characters of numbers: it is no digit, ASCII letter or sign.
-/
structure IsMark (c : Char) : Prop where
  notDigit : Text.isAnyDigit c = false
  notLetter : c.isAlpha = false
  notMinus : c ≠ '-'
  notPlus : c ≠ '+'

namespace IsMark

variable {c : Char} (mark : IsMark c)
include mark

theorem isDigit_eq_false : c.isDigit = false := by
  by_contra digit
  have any := Text.isAnyDigit_of_isDigit (Bool.eq_true_of_not_eq_false digit)
  rw [mark.notDigit] at any
  cases any

/-- Among the characters of literals, only the point is a mark. -/
theorem eq_point (part : IsPart c) : c = '.' := by
  rcases part with alphanumeric | other
  · rw [Char.isAlphanum, mark.notLetter, mark.isDigit_eq_false] at alphanumeric
    cases alphanumeric
  · simpa [mark.notMinus, mark.notPlus] using other

theorem not_mem_sign {negative : Bool} {sign : Text} (signed : Literal.WritesSign negative sign)
    : c ∉ sign := by
  cases signed <;> simp [mark.notMinus, mark.notPlus]

theorem fold_ne_x : Literal.fold c ≠ 'x' := by
  intro isX
  have letter := mark.notLetter
  rcases Literal.eq_or_of_toLower ((Literal.fold_eq_iff (by decide)).mp isX) with rfl | rfl <;>
    revert letter <;> decide

end IsMark

namespace NumberFormat

/-- The format with the decimal separator and, if it has one, the group separator. -/
def ofCharacters (decimal : Char) (group : Option Char) : NumberFormat :=
  ⟨[decimal], group.toList⟩

/-- The separators can be told from each other and from the characters of numbers. -/
structure Marks (decimal : Char) (group : Option Char) : Prop where
  distinct : group ≠ some decimal
  decimal : IsMark decimal
  group : ∀ c ∈ group, IsMark c

/-- The text with the decimal separator in the place of points. -/
def withDecimal (decimal : Char) (t : Text) : Text :=
  t.map fun c => if c = '.' then decimal else c

/-- How digits may be written: as they are or, with a group separator, as a grouped number. -/
inductive Grouped : Option Char → Text → Text → Prop
  | absent (group : Option Char) (digits : Text) : Grouped group digits digits
  | groups {separator : Char} {head : Text} {groups : List Text} (grouped : IsGrouped head groups)
    : Grouped (some separator) (head ++ groups.flatten) (head ++ separated [separator] groups)

/-- The second text is the first, a literal of the invariant format, rewritten for the separators.
Hexadecimal literals are the same in every format. The others have the decimal separator for the
point, and their whole digits may be grouped.
-/
inductive Respells (decimal : Char) (group : Option Char) : Text → Text → Prop
  | hex {l : Literal} {digits t : Text} (writes : Literal.Writes l t)
      (hexadecimal : l.magnitude = .hex digits)
    : Respells decimal group t t
  | decimal {l : Literal} {sign whole tail written : Text}
      (writes : Literal.Writes l (sign ++ (whole ++ tail)))
      (notHex : ∀ digits, l.magnitude ≠ .hex digits) (cut : l.Cut sign whole tail)
      (grouped : Grouped group whole written)
    : Respells decimal group (sign ++ (whole ++ tail))
        (sign ++ (written ++ withDecimal decimal tail))

variable {d : Char} {g : Option Char} {sign whole tail t literal : Text}

/-- What is respelt is a literal. -/
theorem Respells.exists_writes (respelt : Respells d g literal t)
    : ∃ l, Literal.Writes l literal := by
  cases respelt with
  | hex writes _ => exact ⟨_, writes⟩
  | decimal writes _ _ _ => exact ⟨_, writes⟩

-----------------------------------------------------------------------------------------
-- Decimal separators
-----------------------------------------------------------------------------------------

theorem withDecimal_append (s t : Text)
    : withDecimal d (s ++ t) = withDecimal d s ++ withDecimal d t :=
  List.map_append

theorem withDecimal_of_no_point (absent : '.' ∉ t) : withDecimal d t = t := by
  have kept : ∀ c ∈ t, (if c = '.' then d else c) = c :=
    fun c member => if_neg (ne_of_mem_of_not_mem member absent)
  exact (List.map_congr_left kept).trans (List.map_id' t)

theorem withDecimal_sign {negative : Bool} (signed : Literal.WritesSign negative sign)
    : withDecimal d sign = sign := by
  cases signed <;> rfl

theorem withDecimal_digits (digits : ∀ c ∈ whole, c.isDigit = true) : withDecimal d whole = whole :=
  withDecimal_of_no_point fun member => absurd (digits _ member) (by decide)

/-- The characters with the decimal separator are that separator and all but the points. -/
theorem eq_or_of_mem_withDecimal {c : Char} (member : c ∈ withDecimal d t)
    : c = d ∨ c ∈ t ∧ c ≠ '.' := by
  obtain ⟨original, there, rfl⟩ := List.mem_map.mp member
  split
  · exact .inl rfl
  · next notPoint => exact .inr ⟨there, notPoint⟩

theorem mem_head?_withDecimal {c : Char} (head : c ∈ (withDecimal d t).head?)
    : c = d ∨ c ∈ t.head? ∧ c ≠ '.' := by
  cases t with
  | nil => cases head
  | cons first rest =>
      cases head
      dsimp only
      split
      · exact .inl rfl
      · next notPoint => exact .inr ⟨rfl, notPoint⟩

/-- Putting points for the decimal separator undoes putting it for points, if the one text has no
points and the other no separators but points.
-/
theorem replaceAll_point_eq_iff (other : d ≠ '.') {s : Text}
    : '.' ∉ s ∧ Text.replaceAll [d] ['.'] s = t ↔ s = withDecimal d t ∧ d ∉ t := by
  have replaced : Text.replaceAll [d] ['.'] s = s.map fun c => if c = d then '.' else c := by
    rw [Text.replaceAll_singleton, List.map_eq_flatMap]
    refine List.flatMap_congr fun c _ => ?_
    split <;> rfl
  rw [replaced]
  constructor
  · rintro ⟨noPoint, rfl⟩
    constructor
    · rw [withDecimal, List.map_map]
      refine ((List.map_congr_left fun c member => ?_).trans (List.map_id s)).symm
      have notPoint : c ≠ '.' := fun same => noPoint (same ▸ member)
      by_cases same : c = d <;> simp [same, notPoint]
    · intro member
      obtain ⟨c, _, same⟩ := List.mem_map.mp member
      split at same
      · exact other same.symm
      · next different => exact different same
  · rintro ⟨rfl, noSeparator⟩
    constructor
    · intro member
      rcases eq_or_of_mem_withDecimal member with same | ⟨_, notPoint⟩
      · exact other same.symm
      · exact notPoint rfl
    · rw [withDecimal, List.map_map]
      refine (List.map_congr_left fun c member => ?_).trans (List.map_id t)
      have different : c ≠ d := fun same => noSeparator (same ▸ member)
      by_cases same : c = '.' <;> simp [same, different]

/-- A text that does not start like a hexadecimal literal is brought to the one that it is, without
its groups, with the decimal separator for the points. Then only points may be such separators
there.
-/
theorem normalize?_ofCharacters_iff (notHex : startsHex t = false)
    : (ofCharacters d g).normalize? t = some literal
      ↔ (ofCharacters d g).ungrouped t = withDecimal d literal ∧ (d ∈ literal → d = '.') := by
  rw [normalize?_of_not_hex notHex]
  generalize (ofCharacters d g).ungrouped t = ungrouped
  by_cases point : d = '.'
  · subst point
    have same : withDecimal '.' literal = literal := by
      refine (List.map_congr_left fun c _ => ?_).trans (List.map_id literal)
      by_cases same : c = '.' <;> simp [same]
    simp [ofCharacters, same]
  · have other : (ofCharacters d g).decimalSeparator ≠ ['.'] :=
      fun same => point (List.cons.inj same).1
    rw [if_neg other]
    simp only [point, imp_false]
    rw [← replaceAll_point_eq_iff point]
    split
    · next pointed =>
        have member : '.' ∈ ungrouped := List.contains_iff_mem.mp pointed
        exact iff_of_false nofun fun both => both.1 member
    · next noPoint =>
        have absent : '.' ∉ ungrouped := fun member => noPoint (List.contains_iff_mem.mpr member)
        simp [absent, ofCharacters]

-----------------------------------------------------------------------------------------
-- Cuts
-----------------------------------------------------------------------------------------

/-- Digits are no signs, so that a text that begins with some has none. -/
theorem unsigned_of_digits (any : ∀ c ∈ whole, Text.isAnyDigit c = true)
    (unsigned : whole = [] → ∀ c ∈ tail.head?, c ≠ '-' ∧ c ≠ '+')
    : ∀ c ∈ (whole ++ tail).head?, c ≠ '-' ∧ c ≠ '+' := by
  intro c head
  cases whole with
  | nil => exact unsigned rfl c head
  | cons first rest =>
      cases head
      have digit := any c List.mem_cons_self
      constructor <;> rintro rfl <;> revert digit <;> decide

/-- A text is cut in one way into a sign, digits of any script, and what does not go on with them.
-/
theorem cut_unique {negative other : Bool} {sign' whole' tail' : Text}
    (signed : Literal.WritesSign negative sign) (signed' : Literal.WritesSign other sign')
    (any : ∀ c ∈ whole, Text.isAnyDigit c = true) (any' : ∀ c ∈ whole', Text.isAnyDigit c = true)
    (ends : ∀ c ∈ tail.head?, Text.isAnyDigit c = false)
    (ends' : ∀ c ∈ tail'.head?, Text.isAnyDigit c = false)
    (unsigned : ∀ c ∈ (whole ++ tail).head?, c ≠ '-' ∧ c ≠ '+')
    (unsigned' : ∀ c ∈ (whole' ++ tail').head?, c ≠ '-' ∧ c ≠ '+')
    (same : sign ++ (whole ++ tail) = sign' ++ (whole' ++ tail'))
    : sign = sign' ∧ whole = whole' ∧ tail = tail' := by
  have read := Literal.readSign_append signed unsigned
  rw [same, Literal.readSign_append signed' unsigned'] at read
  have split : (whole ++ tail).span Text.isAnyDigit = (whole, tail) :=
    Text.span_eq_iff.mpr ⟨rfl, any, ends⟩
  rw [← (Prod.mk.inj read).2, Text.span_eq_iff.mpr ⟨rfl, any', ends'⟩] at split
  cases split
  exact ⟨List.append_cancel_right same, rfl, rfl⟩

end NumberFormat

namespace Literal.Cut

open NumberFormat

variable {d : Char} {l m : Literal} {sign whole tail : Text} (cut : l.Cut sign whole tail)
include cut

theorem unsigned : ∀ c ∈ (whole ++ tail).head?, c ≠ '-' ∧ c ≠ '+' :=
  unsigned_of_digits cut.isAnyDigit fun _ c head => (cut.ends c head).2

/-- A literal is cut in one way. -/
theorem unique {sign' whole' tail' : Text} (cut' : m.Cut sign' whole' tail')
    (parts : ∀ c ∈ sign ++ (whole ++ tail), IsPart c)
    (same : sign ++ (whole ++ tail) = sign' ++ (whole' ++ tail'))
    : sign = sign' ∧ whole = whole' ∧ tail = tail' := by
  have parts' := same ▸ parts
  simp only [List.forall_mem_append] at parts parts'
  exact cut_unique cut.signed cut'.signed cut.isAnyDigit cut'.isAnyDigit
    (not_isAnyDigit_of_ends parts.2.2 cut.ends) (not_isAnyDigit_of_ends parts'.2.2 cut'.ends)
    cut.unsigned cut'.unsigned same

/-- With another decimal separator a literal is cut where it was. -/
theorem withDecimal (mark : IsMark d) : l.Cut sign whole (NumberFormat.withDecimal d tail) := by
  refine ⟨cut.signed, cut.digits, fun c head => ?_⟩
  rcases mem_head?_withDecimal head with rfl | ⟨head, _⟩
  · exact ⟨mark.isDigit_eq_false, mark.notMinus, mark.notPlus⟩
  · exact cut.ends c head

/-- The decimal separator stands only where the points were. -/
theorem withDecimal_append
    : NumberFormat.withDecimal d (sign ++ (whole ++ tail))
      = sign ++ (whole ++ NumberFormat.withDecimal d tail) := by
  rw [NumberFormat.withDecimal_append, NumberFormat.withDecimal_append,
    withDecimal_sign cut.signed, withDecimal_digits cut.digits]

/-- A text starts like a hexadecimal literal if its digits are a zero and an `x` follows. -/
theorem startsHex_iff
    : startsHex (sign ++ (whole ++ tail)) = true
      ↔ whole = ['0'] ∧ ∃ x ∈ tail.head?, fold x = 'x' := by
  unfold startsHex
  rw [readSign_append cut.signed cut.unsigned]
  dsimp only
  constructor
  · intro starts
    split at starts
    · next x rest same =>
        have isX := of_decide_eq_true starts
        match whole with
        | [] =>
            have start := (cut.ends '0' (by simpa using congrArg List.head? same)).1
            cases start
        | [zero] =>
            obtain ⟨rfl, rfl⟩ := List.cons.inj same
            exact ⟨rfl, x, rfl, isX⟩
        | zero :: second :: more =>
            obtain ⟨rfl, after⟩ := List.cons.inj same
            obtain ⟨rfl, _⟩ := List.cons.inj after
            have digit := cut.digits second (by simp)
            rcases eq_or_of_toLower ((fold_eq_iff (by decide)).mp isX) with rfl | rfl <;>
              cases digit
    · cases starts
  · rintro ⟨rfl, x, head, isX⟩
    cases tail with
    | nil => cases head
    | cons first rest =>
        cases head
        exact decide_eq_true isX

/-- The decimal separator makes no text start like a hexadecimal literal. -/
theorem startsHex_withDecimal (mark : IsMark d)
    : startsHex (sign ++ (whole ++ NumberFormat.withDecimal d tail))
      = startsHex (sign ++ (whole ++ tail)) := by
  rw [Bool.eq_iff_iff, cut.startsHex_iff, (cut.withDecimal mark).startsHex_iff]
  refine and_congr_right fun _ => ⟨?_, ?_⟩
  · rintro ⟨x, head, isX⟩
    rcases mem_head?_withDecimal head with rfl | ⟨head, _⟩
    · exact absurd isX mark.fold_ne_x
    · exact ⟨x, head, isX⟩
  · rintro ⟨x, head, isX⟩
    cases tail with
    | nil => cases head
    | cons first rest =>
        cases head
        have notPoint : x ≠ '.' := by
          rintro rfl
          revert isX
          decide
        exact ⟨x, by simp [NumberFormat.withDecimal, notPoint], isX⟩

end Literal.Cut

namespace NumberFormat

variable {d : Char} {g : Option Char} {l : Literal} {sign whole tail written t literal : Text}

-----------------------------------------------------------------------------------------
-- Digit groups
-----------------------------------------------------------------------------------------

/-- No group separator is left where digits of a literal end. -/
theorem not_mem_withDecimal {c : Char} (marks : Marks d (some c)) (parts : ∀ c ∈ tail, IsPart c)
    : c ∉ withDecimal d tail := by
  intro member
  rcases eq_or_of_mem_withDecimal member with same | ⟨there, notPoint⟩
  · exact marks.distinct (congrArg some same)
  · exact notPoint ((marks.group c rfl).eq_point (parts c there))

/-- The digits of a literal still end there, also among digits of other scripts. -/
theorem not_digit_withDecimal (mark : IsMark d) (parts : ∀ c ∈ tail, IsPart c)
    (ends : Literal.EndsWhole tail)
    : ∀ c ∈ (withDecimal d tail).head?, Text.isAnyDigit c = false := by
  intro c head
  rcases mem_head?_withDecimal head with rfl | ⟨head, _⟩
  · exact mark.notDigit
  · exact Literal.not_isAnyDigit_of_ends parts ends c head

section Respelt

variable (marks : Marks d g) (cut : l.Cut sign whole tail) (grouped : Grouped g whole written)
include marks cut grouped

/-- A respelt literal loses its group separators. -/
theorem ungrouped_respelt (parts : ∀ c ∈ tail, IsPart c)
    : (ofCharacters d g).ungrouped (sign ++ (written ++ withDecimal d tail))
      = sign ++ (whole ++ withDecimal d tail) := by
  cases grouped with
  | absent =>
      cases g with
      | none => rfl
      | some c =>
          have mark := marks.group c rfl
          have notDigit : c ∉ whole := by
            intro member
            have digit := cut.digits c member
            rw [mark.isDigit_eq_false] at digit
            cases digit
          refine ungroup_of_not_infix fun occurs => ?_
          have member : c ∈ sign ++ (whole ++ withDecimal d tail) :=
            occurs.subset (List.mem_singleton_self c)
          simp [mark.not_mem_sign cut.signed, notDigit, not_mem_withDecimal marks parts] at member
  | @groups c head groups grouped =>
      have absent := not_mem_withDecimal marks parts
      rw [List.append_assoc]
      refine ungroup_grouped (marks.group c rfl).notDigit cut.signed grouped ?_ ?_ ?_
      · exact fun c member => Literal.isDigit_ne_sign (cut.digits c (List.mem_append_left _ member))
      · exact fun head => absent (List.mem_of_mem_head? head)
      · exact not_digit_withDecimal marks.decimal parts cut.ends

/-- A respelt literal does not start like a hexadecimal one if the literal does not. -/
theorem startsHex_respelt (notHex : startsHex (sign ++ (whole ++ tail)) = false)
    : startsHex (sign ++ (written ++ withDecimal d tail)) = false := by
  cases grouped with
  | absent => rwa [cut.startsHex_withDecimal marks.decimal]
  | @groups c head groups grouped =>
      have mark := marks.group c rfl
      obtain ⟨group, more, rfl⟩ := List.exists_cons_of_ne_nil grouped.nonempty
      have separator : ∀ x ∈ (separated [c] (group :: more) ++ withDecimal d tail).head?, x = c := by
        intro x start
        cases start
        rfl
      have cutHead : l.Cut sign head (separated [c] (group :: more) ++ withDecimal d tail) := by
        refine ⟨cut.signed, fun x member => cut.digits x (List.mem_append_left _ member), ?_⟩
        intro x start
        rw [separator x start]
        exact ⟨mark.isDigit_eq_false, mark.notMinus, mark.notPlus⟩
      by_contra starts
      rw [List.append_assoc, Bool.not_eq_false, cutHead.startsHex_iff] at starts
      obtain ⟨_, x, start, isX⟩ := starts
      rw [separator x start] at isX
      exact mark.fold_ne_x isX

end Respelt

-----------------------------------------------------------------------------------------
-- Respelt literals
-----------------------------------------------------------------------------------------

/-- A respelt literal is brought to the literal that it respells. -/
theorem Respells.normalize?_eq (marks : Marks d g) (respelt : Respells d g literal t)
    : (ofCharacters d g).normalize? t = some literal := by
  cases respelt with
  | hex writes hexadecimal =>
      have starts := writes.startsHex_iff.mpr ⟨_, hexadecimal⟩
      rw [normalize?, if_pos starts]
  | @decimal l sign whole tail written writes notHex cut grouped =>
      have parts := writes.isPart
      simp only [List.forall_mem_append] at parts
      have starts : startsHex (sign ++ (whole ++ tail)) = false := by
        by_contra starts
        obtain ⟨digits, hexadecimal⟩ := writes.startsHex_iff.mp (Bool.eq_true_of_not_eq_false starts)
        exact notHex digits hexadecimal
      rw [normalize?_ofCharacters_iff (startsHex_respelt marks cut grouped starts),
        ungrouped_respelt marks cut grouped parts.2.2, cut.withDecimal_append]
      exact ⟨rfl, fun member => marks.decimal.eq_point (writes.isPart d member)⟩

/-- A text that is brought to a literal respells it.
Witness: with the groups put back, the digits of the literal end where the grouped number does.
-/
theorem respells_of_normalize? (marks : Marks d g) (writes : Literal.Writes l literal)
    (normal : (ofCharacters d g).normalize? t = some literal)
    : Respells d g literal t := by
  by_cases starts : startsHex t = true
  · rw [normalize?, if_pos starts] at normal
    cases normal
    obtain ⟨digits, hexadecimal⟩ := writes.startsHex_iff.mp starts
    exact .hex writes hexadecimal
  · have starts := Bool.eq_false_of_not_eq_true starts
    obtain ⟨ungrouped, _⟩ := (normalize?_ofCharacters_iff starts).mp normal
    obtain ⟨sign, whole, tail, rfl, cut, single, _⟩ := writes.exists_cut
    have parts := writes.isPart
    simp only [List.forall_mem_append] at parts
    rw [cut.withDecimal_append] at ungrouped
    have asWritten (kept : t = sign ++ (whole ++ withDecimal d tail))
        : Respells d g (sign ++ (whole ++ tail)) t := by
      subst kept
      refine .decimal writes (fun digits hexadecimal => ?_) cut (.absent g whole)
      rw [cut.startsHex_withDecimal marks.decimal, writes.startsHex_iff.mpr ⟨_, hexadecimal⟩]
        at starts
      cases starts
    cases g with
    | none => exact asWritten ungrouped
    | some c =>
        obtain kept | ⟨negative, sign', head, groups, rest, signed, grouped, noDigit, text, without⟩ :=
          ungroup_outcome (marks.group c rfl).notDigit t
        · exact asWritten (kept.symm.trans ungrouped)
        · have long := grouped.length
          have unsigned : ∀ c ∈ (head ++ groups.flatten ++ rest).head?, c ≠ '-' ∧ c ≠ '+' :=
            unsigned_of_digits grouped.isAnyDigit fun empty => by simp [empty] at long
          obtain ⟨rfl, rfl, rfl⟩ := cut_unique signed cut.signed grouped.isAnyDigit cut.isAnyDigit
            noDigit (not_digit_withDecimal marks.decimal parts.2.2 cut.ends) unsigned
            (cut.withDecimal marks.decimal).unsigned (without.symm.trans ungrouped)
          rw [text, ← List.append_assoc head]
          refine .decimal writes (fun digits hexadecimal => ?_) cut (.groups grouped)
          rw [single digits hexadecimal] at long
          omega

/-- A text is brought to a literal exactly if it respells the literal. -/
theorem respells_iff (marks : Marks d g)
    : Respells d g literal t
      ↔ (ofCharacters d g).normalize? t = some literal ∧ ∃ l, Literal.Writes l literal :=
  ⟨fun respelt => ⟨respelt.normalize?_eq marks, respelt.exists_writes⟩,
    fun ⟨normal, _, writes⟩ => respells_of_normalize? marks writes normal⟩

/-- The power of ten of a literal is written with the same digits in every format. -/
theorem Respells.power_infix (respelt : Respells d g literal t) (writes : Literal.Writes l literal)
    : ∀ e ∈ l.magnitude.written?, e.digits <:+: t ∧ ∀ c ∈ e.digits, c.isDigit = true := by
  intro e present
  obtain ⟨sign', whole', tail', same, cut', _, power⟩ := writes.exists_cut
  obtain ⟨inTail, decimal⟩ := power e present
  refine ⟨?_, decimal⟩
  have inText (start digits : Text) {rest : Text} (inRest : e.digits <:+: rest)
      : e.digits <:+: start ++ (digits ++ rest) :=
    inRest.trans ((List.suffix_append _ _).trans (List.suffix_append _ _)).isInfix
  cases respelt with
  | hex _ _ =>
      rw [same]
      exact inText _ _ inTail
  | @decimal _ sign whole tail written _ _ cut _ =>
      obtain ⟨rfl, rfl, rfl⟩ := cut.unique cut' writes.isPart same
      have kept : withDecimal d e.digits <:+: withDecimal d tail := inTail.map _
      rw [withDecimal_digits decimal] at kept
      exact inText _ _ kept

end NumberFormat

end LiveIni
