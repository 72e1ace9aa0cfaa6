import LiveIni.Literal.Format
import LiveIni.Proofs.Literal.Reading
import LiveIni.Proofs.Literal.Value

/-!
The characters of literals. A literal is made of ASCII letters and digits, points and signs, so that
it has no blanks, no digits of other scripts and no letters outside ASCII. It is hexadecimal exactly
if it starts like one; otherwise it is a sign, digits, and something that begins with neither.
-/

namespace LiveIni

open Number

namespace Literal

/-- The character can stand in a literal. -/
def IsPart (c : Char) : Prop :=
  c.isAlphanum = true ∨ c ∈ ['.', '-', '+']

instance : DecidablePred IsPart :=
  fun c => inferInstanceAs (Decidable (c.isAlphanum = true ∨ c ∈ ['.', '-', '+']))

-----------------------------------------------------------------------------------------
-- Letters and digits
-----------------------------------------------------------------------------------------

variable {c : Char}

theorem isPart_of_isDigit (digit : c.isDigit = true) : IsPart c :=
  .inl (by rw [Char.isAlphanum, digit, Bool.or_true])

theorem isPart_of_toLower (folded : c.toLower.isAlpha = true) : IsPart c := by
  suffices alphabetic : c.isAlpha = true from
    .inl (by rw [Char.isAlphanum, alphabetic, Bool.true_or])
  unfold Char.toLower at folded
  split at folded
  · next upper =>
      have isUpper : c.isUpper = true := by
        unfold Char.isUpper
        exact decide_eq_true upper
      unfold Char.isAlpha
      rw [isUpper, Bool.true_or]
  · exact folded

theorem isAlphanum_iff
    : c.isAlphanum = true
      ↔ ('A' ≤ c ∧ c ≤ 'Z' ∨ 'a' ≤ c ∧ c ≤ 'z') ∨ c.isDigit = true := by
  unfold Char.isAlphanum Char.isAlpha Char.isUpper Char.isLower
  simp only [Bool.or_eq_true, Bool.and_eq_true, decide_eq_true_eq, ge_iff_le]
  rfl

theorem isPart_of_isHexDigit (digit : Text.isHexDigit c = true) : IsPart c := by
  simp only [Text.isHexDigit, Bool.or_eq_true, Bool.and_eq_true, decide_eq_true_eq] at digit
  refine .inl (isAlphanum_iff.mpr ?_)
  rcases digit with (decimal | lower) | upper
  · exact .inr decimal
  · exact .inl (.inr ⟨lower.1, UInt32.le_trans lower.2 (by decide)⟩)
  · exact .inl (.inl ⟨upper.1, UInt32.le_trans upper.2 (by decide)⟩)

/-- Parts of literals are visible ASCII characters. -/
theorem IsPart.range (part : IsPart c) : 43 ≤ c.toNat ∧ c.toNat ≤ 122 := by
  rcases part with alphanumeric | mark
  · simp only [isAlphanum_iff, Char.isDigit, Char.le_def, Bool.and_eq_true, decide_eq_true_eq,
      UInt32.le_iff_toNat_le, ge_iff_le] at alphanumeric
    have ends : 'A'.val.toNat = 65 ∧ 'Z'.val.toNat = 90 ∧ 'a'.val.toNat = 97 ∧ 'z'.val.toNat = 122
        ∧ '0'.val.toNat = 48 ∧ '9'.val.toNat = 57 := by decide
    change 43 ≤ c.val.toNat ∧ c.val.toNat ≤ 122
    omega
  · simp only [List.mem_cons, List.not_mem_nil, or_false] at mark
    rcases mark with rfl | rfl | rfl <;> decide

theorem IsPart.not_isBlank (part : IsPart c) : Text.isBlank c = false := by
  have range := part.range
  simp only [Text.isBlank, Text.inRanges, Text.blankRanges, List.any_eq_false, Bool.and_eq_true,
    decide_eq_true_eq]
  intro range member
  simp only [List.mem_cons, List.not_mem_nil, or_false] at member
  rcases member with rfl | rfl | rfl | rfl | rfl | rfl | rfl | rfl | rfl | rfl <;> simp <;> omega

/-- The only digits in literals are those from `0` to `9`. -/
theorem IsPart.isDigit (part : IsPart c) (any : Text.isAnyDigit c = true) : c.isDigit = true := by
  have bound := part.range.2
  obtain ⟨range, member, inRange⟩ := List.any_eq_true.mp any
  simp only [Bool.and_eq_true, decide_eq_true_eq] at inRange
  have ascii : ∀ range ∈ Text.digitRanges, range.1 ≤ 122 → range = (0x30, 0x39) := by decide
  rw [ascii range member (by omega)] at inRange
  simp only [Char.isDigit, Bool.and_eq_true, decide_eq_true_eq, UInt32.le_iff_toNat_le, ge_iff_le]
  exact inRange

-----------------------------------------------------------------------------------------
-- Texts that write literals
-----------------------------------------------------------------------------------------

/-- Letters whose lower-case forms are letters are parts of literals. -/
theorem isPart_of_lower {letters folded : Text} (same : Text.lower letters = folded)
    (alphabetic : ∀ c ∈ folded, c.isAlpha = true)
    : ∀ c ∈ letters, IsPart c := by
  intro c member
  have lowered : c.toLower ∈ folded := same ▸ List.mem_map_of_mem member
  exact isPart_of_toLower (alphabetic _ lowered)

theorem WritesSign.isPart {negative : Bool} {sign : Text} (signed : WritesSign negative sign)
    : ∀ c ∈ sign, IsPart c := by
  cases signed <;> exact List.all_iff_forall_prop.mp (by decide)

theorem WritesFraction.isPart {fraction : Option Text} {t : Text}
    (fractional : WritesFraction fraction t)
    : ∀ c ∈ t, IsPart c := by
  cases fractional with
  | absent => exact List.forall_mem_nil _
  | present decimal =>
      exact List.forall_mem_cons.mpr
        ⟨by decide, fun c member => isPart_of_isDigit (decimal c member)⟩

theorem WritesExponent.isPart {exponent : Option WrittenExponent} {t : Text}
    (powered : WritesExponent exponent t)
    : ∀ c ∈ t, IsPart c := by
  cases powered with
  | absent => exact List.forall_mem_nil _
  | present letter signed decimal _ =>
      refine List.forall_mem_cons.mpr ⟨isPart_of_toLower (letter ▸ rfl), ?_⟩
      exact List.forall_mem_append.mpr
        ⟨signed.isPart, fun c member => isPart_of_isDigit (decimal c member)⟩

theorem WritesMagnitude.isPart {magnitude : Magnitude} {t : Text}
    (sized : WritesMagnitude magnitude t)
    : ∀ c ∈ t, IsPart c := by
  cases sized with
  | hex letter hexadecimal _ =>
      simp only [List.forall_mem_cons]
      exact ⟨by decide, isPart_of_toLower (letter ▸ rfl),
        fun c member => isPart_of_isHexDigit (hexadecimal c member)⟩
  | decimal decimal fractional powered _ =>
      simp only [List.forall_mem_append]
      exact ⟨fun c member => isPart_of_isDigit (decimal c member), fractional.isPart,
        powered.isPart⟩

theorem WritesWidth.isPart {width : Option Width} {t : Text} (typed : WritesWidth width t)
    : ∀ c ∈ t, IsPart c := by
  cases typed with
  | absent => exact List.forall_mem_nil _
  | @present width _ named =>
      generalize same : Text.lower t = folded at named
      refine isPart_of_lower same ?_
      cases width with
      | integer type =>
          cases type <;> cases named <;> exact List.all_iff_forall_prop.mp (by decide)
      | bigint =>
          cases named
          exact List.all_iff_forall_prop.mp (by decide)
      | decimal =>
          cases named
          exact List.all_iff_forall_prop.mp (by decide)
      | unknown letters => cases named

theorem WritesMultiplier.isPart {multiplier : Option Multiplier} {t : Text}
    (scaled : WritesMultiplier multiplier t)
    : ∀ c ∈ t, IsPart c := by
  cases scaled with
  | absent => exact List.forall_mem_nil _
  | @present multiplier _ named =>
      refine isPart_of_lower named ?_
      cases multiplier <;> exact List.all_iff_forall_prop.mp (by decide)

variable {l : Literal} {t : Text}

theorem Writes.isPart (writes : Writes l t) : ∀ c ∈ t, IsPart c := by
  cases writes with
  | parts signed sized typed scaled _ =>
      simp only [List.forall_mem_append]
      exact ⟨signed.isPart, sized.isPart, typed.isPart, scaled.isPart⟩

theorem Writes.plainLetters (writes : Writes l t) : PlainLetters t :=
  ⟨fun member => absurd (writes.isPart _ member) (by decide),
    fun member => absurd (writes.isPart _ member) (by decide)⟩

theorem Writes.strip_eq (writes : Writes l t) : Text.strip t = t :=
  Text.strip_of_forall fun c member => (writes.isPart c member).not_isBlank

-----------------------------------------------------------------------------------------
-- What literals begin with
-----------------------------------------------------------------------------------------

/-- The text begins neither like a digit nor like a sign. -/
def EndsWhole (t : Text) : Prop :=
  ∀ c ∈ t.head?, c.isDigit = false ∧ c ≠ '-' ∧ c ≠ '+'

/-- No suffix begins like a sign. -/
theorem not_sign_of_suffix : ∀ c ∈ suffixLetters, c ≠ '-' ∧ c ≠ '+' :=
  List.all_iff_forall_prop.mp (by decide)

theorem endsWhole_fraction {fraction : Option Text} {exponent : Option WrittenExponent}
    {pointed power rest : Text} (fractional : WritesFraction fraction pointed)
    (powered : WritesExponent exponent power) (ends : EndsWhole rest)
    : EndsWhole (pointed ++ (power ++ rest)) := by
  intro c head
  cases fractional with
  | present _ =>
      cases head
      decide
  | absent =>
      cases powered with
      | absent => exact ends c head
      | present letter _ _ _ =>
          cases head
          rcases eq_or_of_toLower letter with rfl | rfl <;> decide

/-- Where the digits of a literal end, it has another character, also among digits of other scripts.
-/
theorem not_isAnyDigit_of_ends (parts : ∀ c ∈ t, IsPart c) (ends : EndsWhole t)
    : ∀ c ∈ t.head?, Text.isAnyDigit c = false := by
  intro c head
  by_contra any
  have digit := (parts c (List.mem_of_mem_head? head)).isDigit (Bool.eq_true_of_not_eq_false any)
  rw [(ends c head).1] at digit
  cases digit

/-- A sign, digits, and what does not go on with them. -/
structure Cut (l : Literal) (sign whole tail : Text) : Prop where
  signed : WritesSign l.negative sign
  digits : ∀ c ∈ whole, c.isDigit = true
  ends : EndsWhole tail

theorem Cut.isAnyDigit {sign whole tail : Text} (cut : l.Cut sign whole tail)
    : ∀ c ∈ whole, Text.isAnyDigit c = true :=
  fun c member => Text.isAnyDigit_of_isDigit (cut.digits c member)

/-- Every literal can be cut. The digits of a hexadecimal one are just the zero that it begins with,
and a power of ten comes after the digits.
-/
theorem Writes.exists_cut (writes : Writes l t)
    : ∃ sign whole tail, t = sign ++ (whole ++ tail) ∧ l.Cut sign whole tail
        ∧ (∀ digits, l.magnitude = .hex digits → whole.length = 1)
        ∧ ∀ e ∈ l.magnitude.written?, e.digits <:+: tail ∧ ∀ c ∈ e.digits, c.isDigit = true := by
  cases writes with
  | @parts negative magnitude width multiplier sign unsigned letters scale signed sized typed scaled
      hexTyped =>
      have ends : EndsWhole (letters ++ scale) := by
        intro c head
        have inSuffix := (suffix_head typed scaled c head).1
        exact ⟨(not_decimal_of_suffix c inSuffix).1, not_sign_of_suffix c inSuffix⟩
      cases sized with
      | @hex x digits letter _ _ =>
          refine ⟨sign, ['0'], x :: (digits ++ (letters ++ scale)), rfl,
            ⟨signed, List.forall_mem_singleton.mpr rfl, ?_⟩, fun _ _ => rfl, nofun⟩
          intro c head
          cases head
          rcases eq_or_of_toLower letter with rfl | rfl <;> decide
      | @decimal whole pointed power _ _ decimal fractional powered _ =>
          refine ⟨sign, whole, pointed ++ (power ++ (letters ++ scale)), ?_,
            ⟨signed, decimal, endsWhole_fraction fractional powered ends⟩, nofun,
            fun e written => ?_⟩
          · simp only [List.append_assoc]
          · cases powered with
            | absent => cases written
            | @present letter _ sign digits _ _ decimal _ =>
                cases written
                refine ⟨⟨pointed ++ letter :: sign, letters ++ scale, ?_⟩, decimal⟩
                simp only [List.append_assoc, List.cons_append]

/-- A text that writes a literal starts like a hexadecimal one exactly if it writes one. -/
theorem Writes.startsHex_iff (writes : Writes l t)
    : NumberFormat.startsHex t = true ↔ ∃ digits, l.magnitude = .hex digits := by
  cases writes with
  | @parts negative magnitude width multiplier sign unsigned letters scale signed sized typed scaled
      hexTyped =>
      have read := readSign_append signed (magnitude_head sized (letters ++ scale))
      unfold NumberFormat.startsHex
      rw [read]
      dsimp only
      cases sized with
      | @hex x digits letter _ _ =>
          have folded : fold x = 'x' := (fold_eq_iff (by decide)).mpr letter
          simp [folded]
      | @decimal whole pointed power _ _ decimal fractional powered nonempty =>
          have ends : EndsDecimal (letters ++ scale) := fun c head =>
            not_decimal_of_suffix c (suffix_head typed scaled c head).1
          have notHex := decimal_notHex decimal fractional powered nonempty ends
          simp only [List.append_assoc, reduceCtorEq, exists_false, iff_false,
            Bool.not_eq_true]
          split
          · next x rest same => exact decide_eq_false (notHex x rest same)
          · rfl

end Literal

end LiveIni
