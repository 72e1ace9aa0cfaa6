import LiveIni.Proofs.Inference.Exactness
import LiveIni.Proofs.Inference.Reading
import LiveIni.Proofs.Literal.Normalization
import LiveIni.Proofs.Text.Cutting

/-!
What inference makes of a text, in any number format. Every text but two kinds of literal is a truth
value, a number or itself, and a literal that is no number is reported. Inference stops at a power of
ten of more digits than can be read, and at a width that is written with the long s.
-/

namespace LiveIni

open Number

/-- The kind that a width names, if it names one. -/
def Width.kind? : Width → Option NumberKind
  | integer type => some (.integer type)
  | bigint => some .bigint
  | decimal => some .decimal
  | unknown _ => none

namespace Literal

/-- The kinds into which the value of a literal may be fitted, in the order in which they are tried. -/
def kinds (l : Literal) : List NumberKind :=
  match l.width with
  | none => Inference.candidates l.isIntegral
  | some width => width.kind?.toList

/-- What is wrong with a literal whose value fits none of its kinds. -/
def misfit (l : Literal) : LiteralFault :=
  match l.width.bind Width.kind? with
  | some kind => .doesNotFit kind
  | none => .fitsNothing

/-- A width that is written names a kind. -/
theorem Writes.exists_kind {l : Literal} {t : Text} {width : Width} (writes : Writes l t)
    (named : l.width = some width)
    : ∃ kind, width.kind? = some kind := by
  cases writes with
  | parts _ _ typed _ _ =>
      cases typed with
      | absent => cases named
      | present letters =>
          cases named
          cases width with
          | integer type => exact ⟨_, rfl⟩
          | bigint => exact ⟨_, rfl⟩
          | decimal => exact ⟨_, rfl⟩
          | unknown other => cases letters

/-- A literal that comes to a decimal has a power of ten that is read and in range. -/
theorem inRange_of_toDecimal {l : Literal} {d : Decimal} (found : l.toDecimal = .ok d)
    : ¬l.HasLongExponent ∧ ¬l.magnitude.HasFarExponent := by
  obtain ⟨_, _, fault⟩ | ⟨_, _, fault⟩ | ⟨short, near, _⟩ := l.toDecimal_outcome
  · rw [found] at fault
    cases fault
  · rw [found] at fault
    cases fault
  · exact ⟨short, near⟩

/-- Every literal has a digit. -/
theorem Writes.exists_digit {l : Literal} {t : Text} (writes : Writes l t)
    : ∃ c ∈ t, c.isDigit = true := by
  cases writes with
  | parts _ sized _ _ _ =>
      cases sized with
      | hex letter hexadecimal nonempty => exact ⟨'0', by simp, rfl⟩
      | @decimal whole pointed power fraction _ decimal fractional _ nonempty =>
          cases fractional with
          | absent =>
              obtain ⟨c, rest, rfl⟩ := List.exists_cons_of_ne_nil (by simpa using nonempty)
              exact ⟨c, by simp, decimal c List.mem_cons_self⟩
          | @present digits afterPoint =>
              obtain ⟨c, rest, start⟩ := List.exists_cons_of_ne_nil nonempty
              have member : c ∈ whole ++ digits := start ▸ List.mem_cons_self
              rcases List.mem_append.mp member with inWhole | inFraction
              · exact ⟨c, by simp [inWhole], decimal c inWhole⟩
              · exact ⟨c, by simp [inFraction], afterPoint c inFraction⟩

end Literal

/-- A text that writes a literal has a digit: bringing it to the invariant format adds none. -/
theorem NumberFormat.Writes.exists_digit {format : NumberFormat} {l : Literal} {t normalized : Text}
    (writes : format.Writes l t normalized)
    : ∃ c ∈ t, c.isDigit = true := by
  obtain ⟨plain, member, digit⟩ := writes.plain.exists_digit
  obtain ⟨c, there, rfl⟩ := List.mem_map.mp member
  rw [Literal.ordinary_isDigit.apply_plainLetter] at digit
  refine ⟨c, ?_, digit⟩
  rcases mem_normalize? writes.normal there with inText | rfl
  · obtain ⟨lead, trail, whole, _⟩ := Text.exists_eq_strip t
    rw [whole]
    simp [inText]
  · exact absurd digit (by decide)

namespace Inference

-----------------------------------------------------------------------------------------
-- Truth words
-----------------------------------------------------------------------------------------

/-- A digit is a digit in every letter case. -/
theorem fold_of_isDigit {c : Char} (digit : c.isDigit = true) : Literal.fold c = c := by
  have lowered : c.toLower = c := by
    rw [Char.isDigit, Bool.and_eq_true, decide_eq_true_eq, decide_eq_true_eq] at digit
    exact dif_neg fun upper => absurd (UInt32.le_trans upper.1 digit.2) (by decide)
  have notLong : c ≠ 'ſ' := fun same => absurd (same ▸ digit) (by decide)
  have notKelvin : c ≠ '\u212A' := fun same => absurd (same ▸ digit) (by decide)
  rw [Literal.fold, if_neg notLong, if_neg notKelvin, lowered]

theorem not_digit_of_readWord? {t : Text} {b : Bool} (word : readWord? t = some b)
    : ∀ c ∈ t, c.isDigit = false := by
  intro c member
  by_contra digit
  have digit := Bool.eq_true_of_not_eq_false digit
  have folded : c ∈ t.map Literal.fold := by
    rw [← fold_of_isDigit digit]
    exact List.mem_map_of_mem member
  have letters : ∀ c ∈ "true".toList ++ "false".toList, c.isDigit = false :=
    List.all_iff_forall_prop.mp (by decide)
  unfold readWord? at word
  dsimp only at word
  split at word
  · next isTrue =>
      have noDigit := letters c (List.mem_append_left _ (isTrue ▸ folded))
      rw [digit] at noDigit
      cases noDigit
  · split at word
    · next isFalse =>
        have noDigit := letters c (List.mem_append_right _ (isFalse ▸ folded))
        rw [digit] at noDigit
        cases noDigit
    · cases word

/-- There is no digit in a truth word, nor before it. -/
theorem not_digit_of_readBoolean? {t : Text} {b : Bool} (word : readBoolean? t = some b)
    : ∀ c ∈ t, c.isDigit = false := by
  unfold readBoolean? at word
  cases whole : readWord? t with
  | some _ => exact not_digit_of_readWord? whole
  | none =>
      rw [whole] at word
      cases t with
      | nil => cases word
      | cons first rest =>
          change (if isWordCharacter first then none else readWord? rest) = some b at word
          split at word
          · cases word
          · next noWord =>
              intro c member
              rcases List.mem_cons.mp member with rfl | inWord
              · by_contra digit
                refine noWord ?_
                simp [isWordCharacter, Char.isAlphanum, Bool.eq_true_of_not_eq_false digit]
              · exact not_digit_of_readWord? word c inWord

-----------------------------------------------------------------------------------------
-- Literals
-----------------------------------------------------------------------------------------

/-- A literal whose width names a type is read as the first of its kinds that has room for its value,
and is invalid if none has.
-/
theorem readLiteral_of_toDecimal {source normalized : Text} {l : Literal} {d : Decimal}
    (found : l.toDecimal = .ok d) (known : ∀ width ∈ l.width, ∃ kind, width.kind? = some kind)
    : readLiteral source normalized l
      = .ok (match l.kinds.findSome? (fit? d) with
          | some v => .number v
          | none => .invalid ⟨source, l.misfit⟩) := by
  have single (kind : NumberKind)
      : readAs source d kind
        = match [kind].findSome? (fit? d) with
          | some v => .number v
          | none => .invalid ⟨source, .doesNotFit kind⟩ := by
    cases fits : fit? d kind with
    | none => simp [readAs, fits]
    | some v => simp [readAs, fits]
  unfold readLiteral Literal.kinds Literal.misfit
  rw [found]
  dsimp only
  cases named : l.width with
  | none =>
      cases (Inference.candidates l.isIntegral).findSome? (fit? d) <;> rfl
  | some width =>
      cases width with
      | integer type => exact congrArg Except.ok (single _)
      | bigint => exact congrArg Except.ok (single _)
      | decimal => exact congrArg Except.ok (single _)
      | unknown letters =>
          obtain ⟨_, impossible⟩ := known _ named
          cases impossible

/-- What inference makes of a text that writes a literal, and what it reports. -/
inductive LiteralOutcome (t : Text) (l : Literal) (normalized : Text)
    : Except InferenceFault (TypedValue × Option InvalidLiteral) → Prop
  | number {d : Decimal} {v : TypedValue} (decimal : l.toDecimal = .ok d)
      (plain : 'ſ' ∉ normalized) (first : l.kinds.findSome? (fit? d) = some v)
    : LiteralOutcome t l normalized (.ok (v, none))
  | unfit {d : Decimal} (decimal : l.toDecimal = .ok d) (plain : 'ſ' ∉ normalized)
      (unfit : l.kinds.findSome? (fit? d) = none)
    : LiteralOutcome t l normalized (.ok (.string t, some ⟨Text.strip t, l.misfit⟩))
  | farExponent (short : ¬l.HasLongExponent) (far : l.magnitude.HasFarExponent)
    : LiteralOutcome t l normalized (.ok (.string t, some ⟨normalized, .exponentOutOfRange⟩))
  | longExponent {count : Nat} (long : l.HasLongExponent)
    : LiteralOutcome t l normalized (.error (.exponentDigits count))
  | longS {letters : Text} (short : ¬l.HasLongExponent) (near : ¬l.magnitude.HasFarExponent)
      (long : 'ſ' ∈ normalized)
    : LiteralOutcome t l normalized (.error (.unknownWidth letters))

/-- What inference makes of a text, and what it reports. -/
inductive Outcome (format : NumberFormat) (t : Text)
    : Except InferenceFault (TypedValue × Option InvalidLiteral) → Prop
  | truth {b : Bool} (word : readBoolean? t = some b)
      (noLiteral : ∀ l normalized, ¬format.Writes l t normalized)
    : Outcome format t (.ok (.boolean b, none))
  | text (noWord : readBoolean? t = none)
      (noLiteral : ∀ l normalized, ¬format.Writes l t normalized)
    : Outcome format t (.ok (.string t, none))
  | literal {l : Literal} {normalized : Text}
      {result : Except InferenceFault (TypedValue × Option InvalidLiteral)}
      (writes : format.Writes l t normalized) (outcome : LiteralOutcome t l normalized result)
    : Outcome format t result

end Inference

open Inference

/-- Inference has one of the outcomes, whatever the text and the number format are.
Witness: a text that writes a literal is no truth word, and its decimal is looked for before its width.
-/
theorem infer_outcome (format : NumberFormat) (t : Text) : Outcome format t (infer format t) := by
  unfold infer
  cases word : readBoolean? t with
  | some b =>
      refine .truth word fun l normalized writes => ?_
      obtain ⟨c, member, digit⟩ := writes.exists_digit
      rw [not_digit_of_readBoolean? word c member] at digit
      cases digit
  | none =>
      dsimp only
      obtain ⟨unread, noLiteral⟩ | ⟨l, normalized, width, writes, known, read⟩ :=
        readNumber_cases format t
      · rw [unread]
        exact .text word noLiteral
      · rw [read]
        refine .literal writes ?_
        -- The width has no part in the decimal.
        have same : ({ l with width } : Literal).toDecimal = l.toDecimal := rfl
        obtain ⟨long, count, fault⟩ | ⟨short, far, fault⟩ | ⟨short, near, d, found, _⟩ :=
          l.toDecimal_outcome
        · rw [readLiteral, same, fault]
          exact .longExponent long
        · rw [readLiteral, same, fault]
          exact .farExponent short far
        · unfold Literal.WidthIn at known
          split at known
          · next long =>
              obtain ⟨letters, rfl⟩ := known
              rw [readLiteral, same, found]
              exact .longS short near long
          · next plain =>
              subst known
              rw [readLiteral_of_toDecimal found fun width named => writes.plain.exists_kind named]
              cases first : l.kinds.findSome? (fit? d) with
              | some v => exact .number found plain first
              | none => exact .unfit found plain first

namespace Inference

variable {format : NumberFormat} {t : Text}

/-- A text that writes a literal has one of the outcomes of that literal. -/
theorem literalOutcome {l : Literal} {normalized : Text} (writes : format.Writes l t normalized)
    : LiteralOutcome t l normalized (infer format t) := by
  have outcome := infer_outcome format t
  generalize infer format t = result at outcome
  cases outcome with
  | truth _ noLiteral => exact absurd writes (noLiteral l normalized)
  | text _ noLiteral => exact absurd writes (noLiteral l normalized)
  | literal other outcome =>
      obtain ⟨rfl, rfl⟩ := other.unique writes
      exact outcome

/-- A text that writes a literal is inferred to be the first of its kinds that has room for its value. -/
theorem infer_of_writes {l : Literal} {normalized : Text} {d : Decimal} {v : TypedValue}
    (writes : format.Writes l t normalized) (plain : 'ſ' ∉ normalized)
    (found : l.toDecimal = .ok d) (first : l.kinds.findSome? (fit? d) = some v)
    : infer format t = .ok (v, none) := by
  obtain ⟨short, near⟩ := Literal.inRange_of_toDecimal found
  have outcome := literalOutcome writes
  generalize infer format t = result at outcome
  cases outcome with
  | number decimal _ other =>
      cases decimal.symm.trans found
      cases other.symm.trans first
      rfl
  | unfit decimal _ unfit =>
      cases decimal.symm.trans found
      cases unfit.symm.trans first
  | farExponent _ far => exact absurd far near
  | longExponent long => exact absurd long short
  | longS _ _ long => exact absurd long plain

/-- It stays a text and is reported if none of its kinds has room for its value. -/
theorem infer_of_unfit {l : Literal} {normalized : Text} {d : Decimal}
    (writes : format.Writes l t normalized) (plain : 'ſ' ∉ normalized)
    (found : l.toDecimal = .ok d) (unfit : l.kinds.findSome? (fit? d) = none)
    : infer format t = .ok (.string t, some ⟨Text.strip t, l.misfit⟩) := by
  obtain ⟨short, near⟩ := Literal.inRange_of_toDecimal found
  have outcome := literalOutcome writes
  generalize infer format t = result at outcome
  cases outcome with
  | number decimal _ first =>
      cases decimal.symm.trans found
      cases unfit.symm.trans first
  | unfit _ _ _ => rfl
  | farExponent _ far => exact absurd far near
  | longExponent long => exact absurd long short
  | longS _ _ long => exact absurd long plain

/-- A text with a digit is inferred to be itself if it writes no literal. -/
theorem infer_of_no_literal {c : Char} (member : c ∈ t) (digit : c.isDigit = true)
    (noLiteral : ∀ l normalized, ¬format.Writes l t normalized)
    : infer format t = .ok (.string t, none) := by
  have outcome := infer_outcome format t
  generalize infer format t = result at outcome
  cases outcome with
  | truth word _ =>
      rw [not_digit_of_readBoolean? word c member] at digit
      cases digit
  | text _ _ => rfl
  | literal writes _ => exact absurd writes (noLiteral _ _)

/-- Inference stops at a power of ten of too many digits. -/
theorem exponentDigits_iff
    : (∃ count, infer format t = .error (.exponentDigits count))
      ↔ ∃ l normalized, format.Writes l t normalized ∧ l.HasLongExponent := by
  constructor
  · rintro ⟨count, stops⟩
    have outcome := infer_outcome format t
    rw [stops] at outcome
    cases outcome with
    | literal writes outcome =>
        cases outcome with
        | longExponent long => exact ⟨_, _, writes, long⟩
  · rintro ⟨l, normalized, writes, long⟩
    have outcome := literalOutcome writes
    generalize infer format t = result at outcome
    cases outcome with
    | number decimal _ _ => exact absurd long (Literal.inRange_of_toDecimal decimal).1
    | unfit decimal _ _ => exact absurd long (Literal.inRange_of_toDecimal decimal).1
    | farExponent short _ => exact absurd long short
    | longExponent _ => exact ⟨_, rfl⟩
    | longS short _ _ => exact absurd long short

/-- Inference stops at a width that is written with the long s, unless the power of ten is out of range. -/
theorem unknownWidth_iff
    : (∃ letters, infer format t = .error (.unknownWidth letters))
      ↔ ∃ l normalized, format.Writes l t normalized
        ∧ ¬l.HasLongExponent ∧ ¬l.magnitude.HasFarExponent ∧ 'ſ' ∈ normalized := by
  constructor
  · rintro ⟨letters, stops⟩
    have outcome := infer_outcome format t
    rw [stops] at outcome
    cases outcome with
    | literal writes outcome =>
        cases outcome with
        | longS short near long => exact ⟨_, _, writes, short, near, long⟩
  · rintro ⟨l, normalized, writes, short, near, long⟩
    have outcome := literalOutcome writes
    generalize infer format t = result at outcome
    cases outcome with
    | number _ plain _ => exact absurd long plain
    | unfit _ plain _ => exact absurd long plain
    | farExponent _ far => exact absurd far near
    | longExponent tooLong => exact absurd tooLong short
    | longS _ _ _ => exact ⟨_, rfl⟩

/-- What a text is inferred to be, and what is reported of it. A text stays itself. A literal is not
reported exactly if the value is its number in the first of its kinds that has room for it, and is
otherwise the text and reported. Nothing else is reported.
-/
structure Reports (format : NumberFormat) (t : Text) (v : TypedValue)
    (invalid : Option InvalidLiteral) : Prop where
  text : ∀ {s}, v = .string s → s = t
  fitted : ∀ {l normalized}, format.Writes l t normalized →
    (invalid = none ↔ ∃ d, l.toDecimal = .ok d ∧ l.kinds.findSome? (fit? d) = some v)
  reported : invalid.isSome ↔ v = .string t ∧ ∃ l normalized, format.Writes l t normalized

section Reports

variable {v : TypedValue} {invalid : Option InvalidLiteral}
  (inferred : infer format t = .ok (v, invalid))
include inferred

theorem string_eq_of_infer {s : Text} (isText : v = .string s) : s = t := by
  obtain ⟨_, isTruth⟩ | rfl | ⟨d, kind, fits⟩ := infer_cases inferred
  · cases isTruth.symm.trans isText
  · cases isText
    rfl
  · exact absurd (isText ▸ fits) fit?_ne_string

theorem unreported_iff {l : Literal} {normalized : Text}
    (writes : format.Writes l t normalized)
    : invalid = none ↔ ∃ d, l.toDecimal = .ok d ∧ l.kinds.findSome? (fit? d) = some v := by
  have outcome := literalOutcome writes
  rw [inferred] at outcome
  cases outcome with
  | number decimal _ first => exact iff_of_true rfl ⟨_, decimal, first⟩
  | unfit decimal _ unfit =>
      refine iff_of_false nofun ?_
      rintro ⟨d, found, first⟩
      cases decimal.symm.trans found
      cases unfit.symm.trans first
  | farExponent _ far =>
      refine iff_of_false nofun ?_
      rintro ⟨d, found, _⟩
      exact (Literal.inRange_of_toDecimal found).2 far

theorem reported_iff
    : invalid.isSome ↔ v = .string t ∧ ∃ l normalized, format.Writes l t normalized := by
  have outcome := infer_outcome format t
  rw [inferred] at outcome
  cases outcome with
  | truth _ _ => exact iff_of_false nofun fun both => absurd both.1 nofun
  | text _ noLiteral =>
      refine iff_of_false nofun ?_
      rintro ⟨_, l, normalized, writes⟩
      exact noLiteral l normalized writes
  | literal writes outcome =>
      cases outcome with
      | number _ _ first =>
          -- A number is no text.
          obtain ⟨kind, _, fits⟩ := List.exists_of_findSome?_eq_some first
          refine iff_of_false nofun ?_
          rintro ⟨rfl, _⟩
          exact fit?_ne_string fits
      | unfit _ _ _ => exact iff_of_true rfl ⟨rfl, _, _, writes⟩
      | farExponent _ _ => exact iff_of_true rfl ⟨rfl, _, _, writes⟩

end Reports

end Inference

/-- Inference fails for just two kinds of literal: those with a power of ten of more digits than can be
read, and those with a power of ten in range whose width is written with the long s. Any other text is
inferred to be a value: one that writes a literal is a number, or stays a text and is reported if it
fits nowhere, and nothing else is reported.
Witness: a text writes at most one literal, whose outcome its power of ten and its width decide.
-/
theorem infer_fails_iff (format : NumberFormat) (t : Text)
    : ((∃ count, infer format t = .error (.exponentDigits count))
        ↔ ∃ l normalized, format.Writes l t normalized ∧ l.HasLongExponent)
      ∧ ((∃ letters, infer format t = .error (.unknownWidth letters))
        ↔ ∃ l normalized, format.Writes l t normalized
          ∧ ¬l.HasLongExponent ∧ ¬l.magnitude.HasFarExponent ∧ 'ſ' ∈ normalized)
      ∧ ∀ v invalid, infer format t = .ok (v, invalid) → Reports format t v invalid :=
  ⟨exponentDigits_iff, unknownWidth_iff, fun _ _ inferred =>
    ⟨string_eq_of_infer inferred, unreported_iff inferred, reported_iff inferred⟩⟩

/-- A power of ten is a literal, however many digits it has. -/
theorem writes_powerOfTen {digits : Text} (decimal : ∀ c ∈ digits, c.isDigit = true)
    (nonempty : digits ≠ [])
    : let t := '1' :: 'e' :: digits
      NumberFormat.invariant.Writes
        ⟨false, .decimal ['1'] none (some ⟨false, digits⟩), none, none⟩ t t := by
  intro t
  have notBlank : ∀ c ∈ t, Text.isBlank c = false := by
    intro c member
    rcases List.mem_cons.mp member with rfl | member
    · decide
    · rcases List.mem_cons.mp member with rfl | inDigits
      · decide
      · exact Text.not_isBlank_of_isDigit (decimal c inDigits)
  have notDigit {c : Char} (other : c.isDigit = false) : c ∉ digits := by
    intro member
    rw [decimal c member] at other
    cases other
  have plainLetters : Literal.PlainLetters t := by
    constructor <;> simp [t, notDigit]
  have sized : Literal.WritesMagnitude (.decimal ['1'] none (some ⟨false, digits⟩))
      (['1'] ++ ([] ++ ('e' :: ([] ++ digits)))) :=
    .decimal (List.forall_mem_singleton.mpr rfl) .absent (.present rfl .absent decimal nonempty)
      (List.cons_ne_nil _ _)
  refine ⟨by rw [Text.strip_of_forall notBlank, normalize?_invariant], ?_⟩
  rw [Literal.plain_of_plainLetters plainLetters]
  simpa using Literal.Writes.parts .absent sized .absent .absent nofun

/-- Inference fails for a width of 16 bits that is written with the long s, and for a power of ten that
is written with 4301 zeros: both texts write literals.
-/
theorem infer_stops_at_literals
    : let short := "1ſ".toList
      let far := '1' :: 'e' :: List.replicate 4301 '0'
      NumberFormat.invariant.Writes
          ⟨false, .decimal ['1'] none none, some (.integer .int16), none⟩ short short
        ∧ infer NumberFormat.invariant short = .error (.unknownWidth ['ſ'])
        ∧ NumberFormat.invariant.Writes
          ⟨false, .decimal ['1'] none (some ⟨false, List.replicate 4301 '0'⟩), none, none⟩ far far
        ∧ infer NumberFormat.invariant far = .error (.exponentDigits 4301) := by
  have zeros : ∀ c ∈ List.replicate 4301 '0', c.isDigit = true := by
    intro c member
    cases List.eq_of_mem_replicate member
    rfl
  have nonempty : List.replicate 4301 '0' ≠ [] := List.cons_ne_nil _ _
  refine ⟨⟨by decide +kernel, ?_⟩, by decide +kernel, writes_powerOfTen zeros nonempty,
    by decide +kernel⟩
  exact (Literal.read?_eq_some_iff (by constructor <;> decide)).mp (by decide)

end LiveIni
