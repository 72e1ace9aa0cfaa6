import LiveIni.Proofs.Literal.Grammar

/-!
Literals are read by their grammar: a text is read as a literal exactly if it writes that literal,
so that no text writes two of them.
-/

namespace LiveIni

open Number

namespace Literal

-----------------------------------------------------------------------------------------
-- Magnitudes
-----------------------------------------------------------------------------------------

theorem isDigit_ne_sign {c : Char} (digit : c.isDigit = true) : c ≠ '-' ∧ c ≠ '+' :=
  ⟨fun same => absurd (same ▸ digit) (by decide), fun same => absurd (same ▸ digit) (by decide)⟩

theorem readSign_append {negative : Bool} {sign rest : Text} (signed : WritesSign negative sign)
    (unsigned : ∀ c ∈ rest.head?, c ≠ '-' ∧ c ≠ '+')
    : Decimal.readSign (sign ++ rest) = (negative, rest) := by
  cases signed with
  | plus => rfl
  | minus => rfl
  | absent =>
      cases rest with
      | nil => rfl
      | cons c more =>
          obtain ⟨notMinus, notPlus⟩ := unsigned c rfl
          simp [Decimal.readSign, notMinus, notPlus]

theorem exists_writesSign (t : Text)
    : ∃ sign, WritesSign (Decimal.readSign t).1 sign ∧ t = sign ++ (Decimal.readSign t).2 := by
  unfold Decimal.readSign
  split
  · exact ⟨['-'], .minus, rfl⟩
  · exact ⟨['+'], .plus, rfl⟩
  · exact ⟨[], .absent, rfl⟩

theorem readFraction_append {fraction : Option Text} {pointed rest : Text}
    (fractional : WritesFraction fraction pointed)
    (ends : ∀ c ∈ rest.head?, c.isDigit = false ∧ c ≠ '.')
    : readFraction (pointed ++ rest) = (fraction, rest) := by
  cases fractional with
  | @present digits decimal =>
      have cut : (digits ++ rest).span Char.isDigit = (digits, rest) :=
        Text.span_eq_iff.mpr ⟨rfl, decimal, fun c head => (ends c head).1⟩
      simp only [readFraction, List.cons_append, cut]
  | absent =>
      cases rest with
      | nil => rfl
      | cons c more => simp [readFraction, (ends c rfl).2]

theorem exists_writesFraction (t : Text)
    : ∃ pointed, WritesFraction (readFraction t).1 pointed ∧ t = pointed ++ (readFraction t).2 := by
  unfold readFraction
  split
  · next more =>
      obtain ⟨whole, decimal, _⟩ := Text.span_eq_iff.mp (rfl : more.span Char.isDigit = _)
      exact ⟨_, .present decimal, congrArg ('.' :: ·) whole⟩
  · exact ⟨[], .absent, rfl⟩

theorem readExponent?_append {exponent : Option WrittenExponent} {power rest : Text}
    (powered : WritesExponent exponent power)
    (ends : ∀ c ∈ rest.head?, c.isDigit = false ∧ fold c ≠ 'e')
    : readExponent? (power ++ rest) = some (exponent, rest) := by
  cases powered with
  | @present e negative sign digits letter signed decimal nonempty =>
      have unsigned : ∀ c ∈ (digits ++ rest).head?, c ≠ '-' ∧ c ≠ '+' := by
        intro c head
        cases digits with
        | nil => exact absurd rfl nonempty
        | cons d more =>
            cases head
            exact isDigit_ne_sign (decimal c (List.mem_cons_self ..))
      have signs := readSign_append signed unsigned
      have cut : (digits ++ rest).span Char.isDigit = (digits, rest) :=
        Text.span_eq_iff.mpr ⟨rfl, decimal, fun c head => (ends c head).1⟩
      rw [List.cons_append, List.append_assoc, readExponent?,
        if_pos ((fold_eq_iff (by decide)).mpr letter), signs]
      dsimp only
      rw [cut]
      simp [nonempty]
  | absent =>
      cases rest with
      | nil => rfl
      | cons c more => simp [readExponent?, (ends c rfl).2]

theorem exists_writesExponent {t rest : Text} {exponent : Option WrittenExponent}
    (read : readExponent? t = some (exponent, rest))
    : ∃ power, WritesExponent exponent power ∧ t = power ++ rest := by
  cases t with
  | nil =>
      cases read
      exact ⟨[], .absent, rfl⟩
  | cons e more =>
      rw [readExponent?] at read
      split at read
      · next letter =>
          obtain ⟨sign, signed, whole⟩ := exists_writesSign more
          obtain ⟨digitsWhole, decimal, _⟩ := Text.span_eq_iff.mp
            (rfl : (Decimal.readSign more).2.span Char.isDigit = _)
          dsimp only at read
          split at read
          · cases read
          · next nonempty =>
              cases read
              refine ⟨_, .present ((fold_eq_iff (by decide)).mp letter) signed decimal
                (by simpa using nonempty), ?_⟩
              rw [List.cons_append, List.append_assoc]
              exact congrArg (e :: ·) (whole.trans (congrArg (sign ++ ·) digitsWhole))
      · cases read
        exact ⟨[], .absent, rfl⟩

/-- What follows a decimal magnitude does not begin like a part of it, or like hexadecimal digits
after a zero.
-/
def EndsDecimal (rest : Text) : Prop :=
  ∀ c ∈ rest.head?, c.isDigit = false ∧ c ≠ '.' ∧ fold c ≠ 'e' ∧ fold c ≠ 'x'

/-- A power of ten does not begin like digits or a fraction, and neither does what follows it. -/
theorem power_head {exponent : Option WrittenExponent} {power rest : Text}
    (powered : WritesExponent exponent power) (ends : EndsDecimal rest)
    : ∀ c ∈ (power ++ rest).head?, c.isDigit = false ∧ c ≠ '.' ∧ fold c ≠ 'x' := by
  intro c head
  cases powered with
  | absent =>
      obtain ⟨notDigit, notPoint, _, notX⟩ := ends c head
      exact ⟨notDigit, notPoint, notX⟩
  | present letter _ _ _ =>
      cases head
      rcases eq_or_of_toLower letter with rfl | rfl <;> decide

/-- Neither does a fraction begin like digits. -/
theorem fraction_head {fraction : Option Text} {exponent : Option WrittenExponent}
    {pointed power rest : Text} (fractional : WritesFraction fraction pointed)
    (powered : WritesExponent exponent power) (ends : EndsDecimal rest)
    : ∀ c ∈ (pointed ++ (power ++ rest)).head?, c.isDigit = false ∧ fold c ≠ 'x' := by
  intro c head
  cases fractional with
  | absent =>
      obtain ⟨notDigit, _, notX⟩ := power_head powered ends c head
      exact ⟨notDigit, notX⟩
  | present _ =>
      cases head
      decide

theorem readDecimal?_append {whole pointed power rest : Text} {fraction : Option Text}
    {exponent : Option WrittenExponent} (decimal : ∀ c ∈ whole, c.isDigit = true)
    (fractional : WritesFraction fraction pointed) (powered : WritesExponent exponent power)
    (nonempty : whole ++ fraction.getD [] ≠ []) (ends : EndsDecimal rest)
    : readDecimal? (whole ++ (pointed ++ (power ++ rest)))
      = some (.decimal whole fraction exponent, rest) := by
  have afterFraction := power_head powered ends
  have cut : (whole ++ (pointed ++ (power ++ rest))).span Char.isDigit
      = (whole, pointed ++ (power ++ rest)) :=
    Text.span_eq_iff.mpr
      ⟨rfl, decimal, fun c head => (fraction_head fractional powered ends c head).1⟩
  have cutFraction := readFraction_append fractional fun c head =>
    ⟨(afterFraction c head).1, (afterFraction c head).2.1⟩
  have cutPower := readExponent?_append powered fun c head =>
    ⟨(ends c head).1, (ends c head).2.2.1⟩
  unfold readDecimal?
  rw [cut]
  dsimp only
  rw [cutFraction]
  dsimp only
  rw [if_neg (by simpa using nonempty), cutPower]
  rfl

theorem exists_writesDecimal {t rest : Text} {magnitude : Magnitude}
    (read : readDecimal? t = some (magnitude, rest))
    : ∃ unsigned, WritesMagnitude magnitude unsigned ∧ t = unsigned ++ rest
        ∧ ∀ digits, magnitude ≠ .hex digits := by
  rcases cut : t.span Char.isDigit with ⟨whole, afterWhole⟩
  obtain ⟨rfl, decimal, _⟩ := Text.span_eq_iff.mp cut
  obtain ⟨pointed, fractional, wholeFraction⟩ := exists_writesFraction afterWhole
  unfold readDecimal? at read
  rw [cut] at read
  dsimp only at read
  split at read
  · cases read
  · next nonempty =>
      obtain ⟨⟨exponent, tail⟩, readPower, same⟩ := Option.map_eq_some_iff.mp read
      cases same
      obtain ⟨power, powered, wholePower⟩ := exists_writesExponent readPower
      refine ⟨_, .decimal decimal fractional powered (by simpa using nonempty), ?_, nofun⟩
      rw [List.append_assoc, List.append_assoc, ← wholePower, ← wholeFraction]

/-- Only a zero and the letter `x` begin a hexadecimal magnitude. -/
theorem readMagnitude?_eq_readDecimal? {t : Text}
    (notHex : ∀ x rest, t = '0' :: x :: rest → fold x ≠ 'x')
    : readMagnitude? t = readDecimal? t := by
  unfold readMagnitude?
  split
  · next x rest => rw [if_neg (notHex x rest rfl)]
  · rfl

/-- A decimal magnitude does not begin like a hexadecimal one. -/
theorem decimal_notHex {whole pointed power rest : Text} {fraction : Option Text}
    {exponent : Option WrittenExponent} (decimal : ∀ c ∈ whole, c.isDigit = true)
    (fractional : WritesFraction fraction pointed) (powered : WritesExponent exponent power)
    (nonempty : whole ++ fraction.getD [] ≠ []) (ends : EndsDecimal rest)
    : ∀ x more, whole ++ (pointed ++ (power ++ rest)) = '0' :: x :: more → fold x ≠ 'x' := by
  intro x more same
  have afterWhole := fraction_head fractional powered ends
  -- After the zero comes what follows the digits, or one more digit.
  match whole with
  | [] =>
      cases fractional with
      | absent => exact absurd rfl nonempty
      | present _ => cases same
  | [zero] =>
      have tail : pointed ++ (power ++ rest) = x :: more := (List.cons.inj same).2
      rw [tail] at afterWhole
      exact (afterWhole x rfl).2
  | zero :: second :: _ =>
      have isSecond : second = x := (List.cons.inj (List.cons.inj same).2).1
      subst isSecond
      intro isX
      have digit := decimal second (by simp)
      rcases eq_or_of_toLower ((fold_eq_iff (by decide)).mp isX) with rfl | rfl <;> cases digit

/-- A magnitude is read from the text that writes it, if what follows cannot belong to it. -/
theorem readMagnitude?_append {magnitude : Magnitude} {unsigned rest : Text}
    (sized : WritesMagnitude magnitude unsigned) (ends : EndsDecimal rest)
    (hexEnds : ∀ digits, magnitude = .hex digits → ∀ c ∈ rest.head?, Text.isHexDigit c = false)
    : readMagnitude? (unsigned ++ rest) = some (magnitude, rest) := by
  cases sized with
  | @hex x digits letter hexadecimal nonempty =>
      have cut : (digits ++ rest).span Text.isHexDigit = (digits, rest) :=
        Text.span_eq_iff.mpr ⟨rfl, hexadecimal, hexEnds digits rfl⟩
      rw [List.cons_append, List.cons_append, readMagnitude?,
        if_pos ((fold_eq_iff (by decide)).mpr letter), cut]
      simp [nonempty]
  | decimal decimal fractional powered nonempty =>
      rw [List.append_assoc, List.append_assoc, readMagnitude?_eq_readDecimal?
        (decimal_notHex decimal fractional powered nonempty ends)]
      exact readDecimal?_append decimal fractional powered nonempty ends

/-- A magnitude that is read is written by what stands before the rest. After hexadecimal digits
there is no further one.
-/
theorem exists_writesMagnitude {t rest : Text} {magnitude : Magnitude}
    (read : readMagnitude? t = some (magnitude, rest))
    : ∃ unsigned, WritesMagnitude magnitude unsigned ∧ t = unsigned ++ rest
        ∧ ∀ digits, magnitude = .hex digits → ∀ c ∈ rest.head?, Text.isHexDigit c = false := by
  have ofDecimal {t : Text} (read : readDecimal? t = some (magnitude, rest))
      : ∃ unsigned, WritesMagnitude magnitude unsigned ∧ t = unsigned ++ rest
        ∧ ∀ digits, magnitude = .hex digits → ∀ c ∈ rest.head?, Text.isHexDigit c = false := by
    obtain ⟨unsigned, sized, whole, notHex⟩ := exists_writesDecimal read
    exact ⟨unsigned, sized, whole, fun digits same => absurd same (notHex digits)⟩
  unfold readMagnitude? at read
  split at read
  · next x more =>
      split at read
      · next letter =>
          obtain ⟨whole, hexadecimal, stops⟩ := Text.span_eq_iff.mp
            (rfl : more.span Text.isHexDigit = _)
          dsimp only at read
          split at read
          · cases read
          · next nonempty =>
              cases read
              refine ⟨_, .hex ((fold_eq_iff (by decide)).mp letter) hexadecimal
                (by simpa using nonempty), ?_, fun _ _ => stops⟩
              exact congrArg ('0' :: x :: ·) whole
      · exact ofDecimal read
  · exact ofDecimal read

-----------------------------------------------------------------------------------------
-- Literals
-----------------------------------------------------------------------------------------

/-- A magnitude does not begin like a sign. -/
theorem magnitude_head {magnitude : Magnitude} {unsigned : Text}
    (sized : WritesMagnitude magnitude unsigned) (rest : Text)
    : ∀ c ∈ (unsigned ++ rest).head?, c ≠ '-' ∧ c ≠ '+' := by
  intro c head
  cases sized with
  | hex _ _ _ =>
      cases head
      decide
  | @decimal whole _ _ _ _ decimal fractional _ nonempty =>
      cases whole with
      | cons d more =>
          cases head
          exact isDigit_ne_sign (decimal c (List.mem_cons_self ..))
      | nil =>
          cases fractional with
          | absent => exact absurd rfl nonempty
          | present _ =>
              cases head
              decide

/-- After hexadecimal digits there is no width of decimals, which is one of them. -/
theorem width_ne_decimal {width : Option Width} {letters rest : Text}
    (typed : WritesWidth width letters)
    (ends : ∀ c ∈ (letters ++ rest).head?, Text.isHexDigit c = false)
    : width ≠ some .decimal := by
  rintro rfl
  cases typed with
  | present named =>
      obtain ⟨c, more, rfl, isD⟩ := exists_cons_of_lower (Option.some.inj named).symm
      have notHex := ends c rfl
      rcases eq_or_of_toLower isD with rfl | rfl <;> cases notHex

/-- A text is read as a literal exactly if it writes that literal.
Witness: what is read of each part is what writes it, and each part ends where the letters of the
next one begin.
-/
theorem read?_eq_some_iff {t : Text} {l : Literal} (plain : PlainLetters t)
    : read? t = some l ↔ Writes l t := by
  constructor
  · intro read
    obtain ⟨sign, signed, whole⟩ := exists_writesSign t
    unfold read? at read
    rcases signs : Decimal.readSign t with ⟨negative, rest⟩
    rw [signs] at read signed whole
    obtain ⟨⟨magnitude, tail⟩, readSize, read⟩ := Option.bind_eq_some_iff.mp read
    obtain ⟨⟨width, multiplier⟩, readSuffix, same⟩ := Option.bind_eq_some_iff.mp read
    cases same
    obtain ⟨unsigned, sized, restWhole, hexEnds⟩ := exists_writesMagnitude readSize
    dsimp only at whole restWhole
    subst restWhole
    subst whole
    obtain ⟨letters, scale, rfl, typed, scaled⟩ :=
      (readSuffix?_eq_some_iff plain.of_append.2.of_append.2).mp readSuffix
    exact .parts signed sized typed scaled fun digits isHex =>
      width_ne_decimal typed (hexEnds digits isHex)
  · intro writes
    cases writes with
    | @parts negative magnitude width multiplier sign unsigned letters scale signed sized typed
        scaled hexTyped =>
        have head := suffix_head typed scaled
        have ends : EndsDecimal (letters ++ scale) := fun c first =>
          not_decimal_of_suffix c (head c first).1
        have hexEnds (digits : Text) (isHex : magnitude = .hex digits)
            : ∀ c ∈ (letters ++ scale).head?, Text.isHexDigit c = false := fun c first =>
          not_hexDigit_of_suffix c (head c first).1 ((head c first).2 (hexTyped digits isHex))
        have readSuffix := (readSuffix?_eq_some_iff plain.of_append.2.of_append.2).mpr
          ⟨letters, scale, rfl, typed, scaled⟩
        unfold read?
        rw [readSign_append signed (magnitude_head sized _)]
        dsimp only
        rw [readMagnitude?_append sized ends hexEnds]
        dsimp only [Option.bind_eq_bind, Option.bind_some]
        rw [readSuffix]
        rfl

end Literal

end LiveIni
