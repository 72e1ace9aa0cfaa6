import LiveIni.Literal.Format
import LiveIni.Proofs.Literal.Reading

/-!
Literals in texts of any letters and any number format. The two letters outside ASCII that count as
ASCII letters are read like these, but a width that is written with the long s names no type.
-/

namespace LiveIni

open Number

namespace Literal

/-- The ASCII letter that a letter outside ASCII counts as. Every other character stays. -/
def plainLetter (c : Char) : Char :=
  if c = 'ſ' then 's' else if c = '\u212A' then 'k' else c

def plain (t : Text) : Text :=
  t.map plainLetter

-----------------------------------------------------------------------------------------
-- Letters
-----------------------------------------------------------------------------------------

theorem plainLetters_plain (t : Text) : PlainLetters (plain t) := by
  have notLong (c : Char) : plainLetter c ≠ 'ſ' := by
    unfold plainLetter
    split
    · decide
    · split <;> [decide; assumption]
  have notKelvin (c : Char) : plainLetter c ≠ '\u212A' := by
    unfold plainLetter
    split
    · decide
    · split <;> [decide; assumption]
  constructor <;> intro member <;> obtain ⟨c, _, same⟩ := List.mem_map.mp member
  · exact notLong c same
  · exact notKelvin c same

theorem plain_of_plainLetters {t : Text} (plainLetters : PlainLetters t) : plain t = t := by
  have kept : ∀ c ∈ t, plainLetter c = c := by
    intro c member
    have notLong : c ≠ 'ſ' := fun same => plainLetters.1 (same ▸ member)
    have notKelvin : c ≠ '\u212A' := fun same => plainLetters.2 (same ▸ member)
    rw [plainLetter, if_neg notLong, if_neg notKelvin]
  rw [plain, List.map_congr_left kept]
  exact List.map_id t

theorem fold_plainLetter (c : Char) : fold (plainLetter c) = fold c := by
  unfold plainLetter
  split
  · next isLong =>
      rw [isLong]
      decide
  · split
    · next isKelvin =>
        rw [isKelvin]
        decide
    · rfl

theorem map_fold_plain (t : Text) : (plain t).map fold = t.map fold := by
  rw [plain, List.map_map]
  exact List.map_congr_left fun c _ => fold_plainLetter c

/-- Only two ASCII letters are counted as by others. -/
theorem plainLetter_eq_iff {c d : Char} (ordinary : d ∉ ['s', 'k', 'ſ', '\u212A'])
    : plainLetter c = d ↔ c = d := by
  simp only [List.mem_cons, List.not_mem_nil, or_false, not_or] at ordinary
  obtain ⟨notS, notK, notLong, notKelvin⟩ := ordinary
  unfold plainLetter
  split
  · next isLong => exact iff_of_false (Ne.symm notS) (isLong ▸ Ne.symm notLong)
  · split
    · next isKelvin => exact iff_of_false (Ne.symm notK) (isKelvin ▸ Ne.symm notKelvin)
    · rfl

/-- A class of characters that the letters outside ASCII and those that they count as are not in. -/
structure Ordinary (p : Char → Bool) : Prop where
  longS : p 'ſ' = false
  kelvin : p '\u212A' = false
  s : p 's' = false
  k : p 'k' = false

theorem ordinary_isDigit : Ordinary Char.isDigit := by constructor <;> decide

theorem ordinary_isHexDigit : Ordinary Text.isHexDigit := by constructor <;> decide

namespace Ordinary

variable {p : Char → Bool} (ordinary : Ordinary p)
include ordinary

theorem apply_plainLetter (c : Char) : p (plainLetter c) = p c := by
  unfold plainLetter
  split
  · next isLong => rw [isLong, ordinary.longS, ordinary.s]
  · split
    · next isKelvin => rw [isKelvin, ordinary.kelvin, ordinary.k]
    · rfl

theorem plainLetter_eq {c : Char} (member : p c = true) : plainLetter c = c := by
  unfold plainLetter
  split
  · next isLong =>
      rw [isLong, ordinary.longS] at member
      cases member
  · split
    · next isKelvin =>
        rw [isKelvin, ordinary.kelvin] at member
        cases member
    · rfl

/-- A run of such characters is the same in plain letters, and so is what follows it. -/
theorem span_plain (t : Text) : (plain t).span p = ((t.span p).1, plain (t.span p).2) := by
  rcases cut : t.span p with ⟨run, rest⟩
  obtain ⟨rfl, inClass, stops⟩ := Text.span_eq_iff.mp cut
  have kept : plain run = run := by
    rw [plain, List.map_congr_left fun c member => ordinary.plainLetter_eq (inClass c member)]
    exact List.map_id run
  refine Text.span_eq_iff.mpr ⟨?_, inClass, ?_⟩
  · dsimp only
    rw [plain, List.map_append, ← plain, ← plain, kept]
  · intro c head
    cases rest with
    | nil => cases head
    | cons d more =>
        cases head
        rw [ordinary.apply_plainLetter]
        exact stops d rfl

end Ordinary

-----------------------------------------------------------------------------------------
-- Reading in plain letters
-----------------------------------------------------------------------------------------

theorem readSign_plain (t : Text)
    : Decimal.readSign (plain t)
      = ((Decimal.readSign t).1, plain (Decimal.readSign t).2) := by
  cases t with
  | nil => rfl
  | cons c rest =>
      by_cases minus : c = '-'
      · subst minus
        rfl
      · by_cases plus : c = '+'
        · subst plus
          rfl
        · have stillNotMinus : plainLetter c ≠ '-' := by
            rwa [ne_eq, plainLetter_eq_iff (by decide)]
          have stillNotPlus : plainLetter c ≠ '+' := by
            rwa [ne_eq, plainLetter_eq_iff (by decide)]
          simp [Decimal.readSign, plain, minus, plus, stillNotMinus, stillNotPlus]

theorem readFraction_plain (t : Text)
    : readFraction (plain t) = ((readFraction t).1, plain (readFraction t).2) := by
  cases t with
  | nil => rfl
  | cons c rest =>
      by_cases point : c = '.'
      · subst point
        change readFraction ('.' :: plain rest) = _
        simp only [readFraction, ordinary_isDigit.span_plain]
      · have stillNot : plainLetter c ≠ '.' := by
          rwa [ne_eq, plainLetter_eq_iff (by decide)]
        simp [readFraction, plain, point, stillNot]

theorem readExponent?_plain (t : Text)
    : readExponent? (plain t)
      = (readExponent? t).map fun (exponent, rest) => (exponent, plain rest) := by
  cases t with
  | nil => rfl
  | cons e rest =>
      change readExponent? (plainLetter e :: plain rest) = _
      simp only [readExponent?, fold_plainLetter, readSign_plain, ordinary_isDigit.span_plain]
      split
      · split <;> rfl
      · rfl

theorem readDecimal?_plain (t : Text)
    : readDecimal? (plain t)
      = (readDecimal? t).map fun (magnitude, rest) => (magnitude, plain rest) := by
  simp only [readDecimal?, ordinary_isDigit.span_plain, readFraction_plain, readExponent?_plain]
  split
  · rfl
  · simp only [Option.map_map]
    rfl

theorem readMagnitude?_plain (t : Text)
    : readMagnitude? (plain t)
      = (readMagnitude? t).map fun (magnitude, rest) => (magnitude, plain rest) := by
  have notHex {t : Text} (shape : ∀ x rest, t = '0' :: x :: rest → fold x ≠ 'x')
      : ∀ x rest, plain t = '0' :: x :: rest → fold x ≠ 'x' := by
    intro x rest same
    obtain ⟨zero, tail, rfl, isZero, rest⟩ := List.map_eq_cons_iff.mp same
    obtain ⟨second, more, rfl, rfl, _⟩ := List.map_eq_cons_iff.mp rest
    rw [plainLetter_eq_iff (by decide)] at isZero
    rw [fold_plainLetter]
    exact shape second more (by rw [isZero])
  by_cases shape : ∀ x rest, t = '0' :: x :: rest → fold x ≠ 'x'
  · rw [readMagnitude?_eq_readDecimal? shape, readMagnitude?_eq_readDecimal? (notHex shape),
      readDecimal?_plain]
  · push Not at shape
    obtain ⟨x, rest, rfl, isX⟩ := shape
    change readMagnitude? ('0' :: plainLetter x :: plain rest) = _
    simp only [readMagnitude?, fold_plainLetter, isX, if_true, ordinary_isHexDigit.span_plain]
    split <;> rfl

/-- The width is not known if the long s stands in the text, and is otherwise the same. -/
def WidthIn (t : Text) (plainWidth width : Option Width) : Prop :=
  if 'ſ' ∈ t then ∃ letters, width = some (.unknown letters) else width = plainWidth

/-- A width is read as in plain letters, but it is not known if it is written with the long s. -/
theorem readWidth?_cases (letters : Text)
    : readWidth? letters = none ∧ readWidth? (plain letters) = none
      ∨ ∃ plainWidth width, readWidth? (plain letters) = some plainWidth
        ∧ readWidth? letters = some width ∧ WidthIn letters plainWidth width := by
  have noLong : (plain letters).contains 'ſ' = false := by
    simpa using (plainLetters_plain letters).1
  have empty : (plain letters).isEmpty = letters.isEmpty := List.isEmpty_map
  unfold readWidth? WidthIn
  rw [map_fold_plain, noLong, empty]
  split
  · next isEmpty =>
      rw [List.isEmpty_iff.mp isEmpty]
      exact .inr ⟨none, none, rfl, rfl, rfl⟩
  · cases widthOf? (letters.map fold) with
    | none => exact .inl ⟨rfl, rfl⟩
    | some width =>
        refine .inr ⟨_, _, rfl, rfl, ?_⟩
        by_cases long : 'ſ' ∈ letters <;> simp [long]

/-- No multiplier is written with the long s. -/
theorem not_mem_of_multiplierOf? {letters : Text} {multiplier : Multiplier}
    (named : multiplierOf? (letters.map fold) = some multiplier)
    : 'ſ' ∉ letters := by
  intro member
  have folded : 's' ∈ letters.map fold := List.mem_map.mpr ⟨'ſ', member, by decide⟩
  rw [multiplierOf?_eq_some_iff.mp named] at folded
  revert folded
  cases multiplier <;> decide

theorem readSuffix?_cases (t : Text)
    : readSuffix? t = none ∧ readSuffix? (plain t) = none
      ∨ ∃ plainWidth width multiplier,
        readSuffix? (plain t) = some (plainWidth, multiplier)
        ∧ readSuffix? t = some (width, multiplier) ∧ WidthIn t plainWidth width := by
  have length : (plain t).length = t.length := List.length_map ..
  have front : (plain t).take (t.length - 2) = plain (t.take (t.length - 2)) :=
    (List.map_take ..).symm
  have last : (plain t).drop (t.length - 2) = plain (t.drop (t.length - 2)) :=
    (List.map_drop ..).symm
  unfold readSuffix?
  dsimp only
  rw [length, last, front, map_fold_plain]
  split
  · next multiplier named =>
      have here : 'ſ' ∈ t ↔ 'ſ' ∈ t.take (t.length - 2) := by
        conv_lhs => rw [← List.take_append_drop (t.length - 2) t]
        rw [List.mem_append, or_iff_left (not_mem_of_multiplierOf? named)]
      obtain ⟨unread, plainUnread⟩ | ⟨plainWidth, width, plainRead, read, known⟩ :=
        readWidth?_cases (t.take (t.length - 2))
      · rw [unread, plainUnread]
        exact .inl ⟨rfl, rfl⟩
      · rw [read, plainRead]
        unfold WidthIn at known ⊢
        exact .inr ⟨plainWidth, width, some multiplier, rfl, rfl, by simpa only [here] using known⟩
  · obtain ⟨unread, plainUnread⟩ | ⟨plainWidth, width, plainRead, read, known⟩ :=
      readWidth?_cases t
    · rw [unread, plainUnread]
      exact .inl ⟨rfl, rfl⟩
    · rw [read, plainRead]
      exact .inr ⟨plainWidth, width, none, rfl, rfl, known⟩

/-- Neither the letter s nor the long one is part of a magnitude. -/
theorem WritesMagnitude.not_mem {magnitude : Magnitude} {unsigned : Text} {s : Char}
    (sized : WritesMagnitude magnitude unsigned) (isS : s ∈ ['s', 'ſ'])
    : s ∉ unsigned := by
  have cases : s = 's' ∨ s = 'ſ' := by simpa using isS
  have notHex : Text.isHexDigit s = false := by rcases cases with rfl | rfl <;> decide
  have notDigit : s.isDigit = false := by rcases cases with rfl | rfl <;> decide
  have notMark : s ≠ '0' ∧ s ≠ '.' ∧ s ≠ '-' ∧ s ≠ '+' ∧ s.toLower ≠ 'x' ∧ s.toLower ≠ 'e' := by
    rcases cases with rfl | rfl <;> decide
  obtain ⟨notZero, notPoint, notMinus, notPlus, notX, notE⟩ := notMark
  have apart {digits : Text} (decimal : ∀ c ∈ digits, c.isDigit = true) : s ∉ digits := by
    intro member
    rw [decimal s member] at notDigit
    cases notDigit
  cases sized with
  | @hex x digits letter hexadecimal _ =>
      intro member
      rcases List.mem_cons.mp member with isZero | later
      · exact notZero isZero
      · rcases List.mem_cons.mp later with rfl | inDigits
        · exact notX letter
        · rw [hexadecimal s inDigits] at notHex
          cases notHex
  | @decimal whole pointed power _ _ decimal fractional powered _ =>
      have noFraction : s ∉ pointed := by
        cases fractional with
        | absent => exact List.not_mem_nil
        | present decimal => simpa [notPoint] using apart decimal
      have noPower : s ∉ power := by
        cases powered with
        | absent => exact List.not_mem_nil
        | @present e _ sign digits letter signed decimal _ =>
            have notLetter : s ≠ e := by
              rintro rfl
              exact notE letter
            have noSign : s ∉ sign := by cases signed <;> simp [notMinus, notPlus]
            simp [notLetter, noSign, apart decimal]
      simp [apart decimal, noFraction, noPower]

/-- A text is read as a literal exactly if it writes one in plain letters, and as that literal up to
its width, which is not known if the long s stands in the text.
Witness: no part but the width can have the long s.
-/
theorem read?_cases (t : Text)
    : read? t = none ∧ (∀ l, ¬Writes l (plain t))
      ∨ ∃ l width, Writes l (plain t) ∧ read? t = some { l with width }
        ∧ WidthIn t l.width width := by
  have writes (l : Literal) : Writes l (plain t) ↔ read? (plain t) = some l :=
    (read?_eq_some_iff (plainLetters_plain t)).symm
  obtain ⟨sign, signed, whole⟩ := exists_writesSign t
  have noSign : 'ſ' ∉ sign := by
    generalize (Decimal.readSign t).1 = negative at signed
    cases signed <;> decide
  simp only [writes]
  unfold read?
  rw [readSign_plain]
  dsimp only
  rw [readMagnitude?_plain]
  cases size : readMagnitude? (Decimal.readSign t).2 with
  | none => exact .inl ⟨rfl, nofun⟩
  | some read =>
      obtain ⟨magnitude, tail⟩ := read
      obtain ⟨unsigned, sized, rest, _⟩ := exists_writesMagnitude size
      have noMagnitude : 'ſ' ∉ unsigned := sized.not_mem (by decide)
      have here : 'ſ' ∈ t ↔ 'ſ' ∈ tail := by
        rw [whole, rest]
        simp [noSign, noMagnitude]
      dsimp only [Option.map_some, Option.bind_eq_bind, Option.bind_some]
      obtain ⟨none, plainNone⟩ | ⟨_, width, multiplier, plainRead, read, known⟩ :=
        readSuffix?_cases tail
      · rw [none, plainNone]
        exact .inl ⟨rfl, nofun⟩
      · rw [read, plainRead]
        refine .inr ⟨_, width, rfl, rfl, ?_⟩
        unfold WidthIn at known ⊢
        simpa only [here] using known

theorem WritesWidth.of_mem_s {width : Option Width} {letters : Text}
    (typed : WritesWidth width letters) (member : 's' ∈ letters)
    : width = some (.integer .int16) ∨ width = some (.integer .uint16) := by
  cases typed with
  | absent => cases member
  | @present width _ named =>
      have folded : 's' ∈ Text.lower letters := List.mem_map.mpr ⟨'s', member, by decide⟩
      generalize Text.lower letters = lower at named folded
      cases width with
      | integer type => cases type <;> cases named <;> simp at folded ⊢
      | bigint => cases named; simp at folded
      | decimal => cases named; simp at folded
      | unknown letters => cases named

/-- The letter s is part of a literal only if its width is one of 16 bits. -/
theorem Writes.width_of_mem_s {l : Literal} {t : Text} (writes : Writes l t) (member : 's' ∈ t)
    : l.width = some (.integer .int16) ∨ l.width = some (.integer .uint16) := by
  cases writes with
  | @parts _ _ _ multiplier sign unsigned letters scale signed sized typed scaled _ =>
      have noSign : 's' ∉ sign := by cases signed <;> decide
      have noScale : 's' ∉ scale := by
        intro member
        cases scaled with
        | absent => cases member
        | @present multiplier _ named =>
            have folded : 's' ∈ Text.lower scale := List.mem_map.mpr ⟨'s', member, by decide⟩
            rw [named] at folded
            revert folded
            cases multiplier <;> decide
      simp only [List.mem_append, noSign, noScale, sized.not_mem (List.mem_cons_self ..),
        false_or, or_false] at member
      exact typed.of_mem_s member

end Literal

-----------------------------------------------------------------------------------------
-- Number formats
-----------------------------------------------------------------------------------------

/-- The text writes the literal in the number format. `normalized` is the text in the invariant
format, without the blanks around it.
-/
structure NumberFormat.Writes (format : NumberFormat) (l : Literal) (t normalized : Text) : Prop where
  normal : format.normalize? (Text.strip t) = some normalized
  plain : Literal.Writes l (Literal.plain normalized)

/-- The long s is part of a literal only if its width is one of 16 bits. -/
theorem NumberFormat.Writes.width_of_long_s {format : NumberFormat} {l : Literal}
    {t normalized : Text} (writes : format.Writes l t normalized) (long : 'ſ' ∈ normalized)
    : l.width = some (.integer .int16) ∨ l.width = some (.integer .uint16) :=
  writes.plain.width_of_mem_s (List.mem_map.mpr ⟨'ſ', long, by decide⟩)

end LiveIni
