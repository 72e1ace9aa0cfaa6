import LiveIni.Literal
import LiveIni.Proofs.Text.Cutting
import Mathlib.Data.Bool.AllAny

/-!
The grammar of numeric literals, as relations between the parts of a literal and the texts that
write them. Letters may be of either case. Widths and multipliers are read from just the texts that
write them.
-/

namespace LiveIni

open Number

/-- The letters that name the width, in lower case, if it names a type. -/
def Width.letters? : Width → Option Text
  | .integer .int8 => some ['y']
  | .integer .uint8 => some ['u', 'y']
  | .integer .int16 => some ['s']
  | .integer .uint16 => some ['u', 's']
  | .integer .uint32 => some ['u']
  | .integer .int64 => some ['l']
  | .integer .uint64 => some ['u', 'l']
  | .integer .int32 => none
  | .bigint => some ['n']
  | .decimal => some ['d']
  | .unknown _ => none

/-- The letters that name the multiplier, in lower case. -/
def Multiplier.letters : Multiplier → Text
  | kilo => ['k', 'b']
  | mega => ['m', 'b']
  | giga => ['g', 'b']
  | tera => ['t', 'b']
  | peta => ['p', 'b']

namespace Literal

-----------------------------------------------------------------------------------------
-- The grammar
-----------------------------------------------------------------------------------------

inductive WritesSign : (negative : Bool) → Text → Prop
  | absent : WritesSign false []
  | plus : WritesSign false ['+']
  | minus : WritesSign true ['-']

inductive WritesFraction : Option Text → Text → Prop
  | absent : WritesFraction none []
  | present {digits : Text} (decimal : ∀ c ∈ digits, c.isDigit = true)
    : WritesFraction (some digits) ('.' :: digits)

inductive WritesExponent : Option WrittenExponent → Text → Prop
  | absent : WritesExponent none []
  | present {e : Char} {negative : Bool} {sign digits : Text} (letter : e.toLower = 'e')
      (signed : WritesSign negative sign) (decimal : ∀ c ∈ digits, c.isDigit = true)
      (nonempty : digits ≠ [])
    : WritesExponent (some ⟨negative, digits⟩) (e :: (sign ++ digits))

/-- A magnitude is written with hexadecimal digits, or with a digit before or after its point. -/
inductive WritesMagnitude : Magnitude → Text → Prop
  | hex {x : Char} {digits : Text} (letter : x.toLower = 'x')
      (hexadecimal : ∀ c ∈ digits, Text.isHexDigit c = true) (nonempty : digits ≠ [])
    : WritesMagnitude (.hex digits) ('0' :: x :: digits)
  | decimal {whole pointed power : Text} {fraction : Option Text}
      {exponent : Option WrittenExponent} (decimal : ∀ c ∈ whole, c.isDigit = true)
      (fractional : WritesFraction fraction pointed) (powered : WritesExponent exponent power)
      (nonempty : whole ++ fraction.getD [] ≠ [])
    : WritesMagnitude (.decimal whole fraction exponent) (whole ++ (pointed ++ power))

inductive WritesWidth : Option Width → Text → Prop
  | absent : WritesWidth none []
  | present {width : Width} {letters : Text} (named : width.letters? = some (Text.lower letters))
    : WritesWidth (some width) letters

inductive WritesMultiplier : Option Multiplier → Text → Prop
  | absent : WritesMultiplier none []
  | present {multiplier : Multiplier} {letters : Text}
      (named : Text.lower letters = multiplier.letters)
    : WritesMultiplier (some multiplier) letters

/-- The text writes the literal. A hexadecimal one cannot have the width of decimals, which is a
digit there.
-/
inductive Writes : Literal → Text → Prop
  | parts {negative : Bool} {magnitude : Magnitude} {width : Option Width}
      {multiplier : Option Multiplier} {sign unsigned letters scale : Text}
      (signed : WritesSign negative sign) (sized : WritesMagnitude magnitude unsigned)
      (typed : WritesWidth width letters) (scaled : WritesMultiplier multiplier scale)
      (hexTyped : ∀ digits, magnitude = .hex digits → width ≠ some .decimal)
    : Writes ⟨negative, magnitude, width, multiplier⟩ (sign ++ (unsigned ++ (letters ++ scale)))

-----------------------------------------------------------------------------------------
-- Letters
-----------------------------------------------------------------------------------------

/-- Neither of the letters outside ASCII that count as ASCII letters stands in the text. -/
def PlainLetters (t : Text) : Prop :=
  'ſ' ∉ t ∧ '\u212A' ∉ t

theorem PlainLetters.of_append {s t : Text} (plain : PlainLetters (s ++ t))
    : PlainLetters s ∧ PlainLetters t := by
  simp only [PlainLetters, List.mem_append, not_or] at plain ⊢
  exact ⟨⟨plain.1.1, plain.2.1⟩, plain.1.2, plain.2.2⟩

theorem PlainLetters.fold_eq {t : Text} (plain : PlainLetters t) {c : Char} (member : c ∈ t)
    : fold c = c.toLower := by
  have notLong : c ≠ 'ſ' := fun same => plain.1 (same ▸ member)
  have notKelvin : c ≠ '\u212A' := fun same => plain.2 (same ▸ member)
  simp [fold, notLong, notKelvin]

theorem PlainLetters.map_fold {t : Text} (plain : PlainLetters t) : t.map fold = Text.lower t :=
  List.map_congr_left fun _ member => plain.fold_eq member

/-- A letter that counts as an ordinary one is that letter in lower or upper case. -/
theorem fold_eq_iff {c lower : Char} (ordinary : lower ∉ ['s', 'k', 'ſ', '\u212A'])
    : fold c = lower ↔ c.toLower = lower := by
  simp only [List.mem_cons, List.not_mem_nil, or_false, not_or] at ordinary
  obtain ⟨notS, notK, notLong, notKelvin⟩ := ordinary
  unfold fold
  split
  · next isLong =>
      subst isLong
      exact iff_of_false (Ne.symm notS) (Ne.symm notLong)
  · split
    · next isKelvin =>
        subst isKelvin
        exact iff_of_false (Ne.symm notK) (Ne.symm notKelvin)
    · rfl

/-- A character with a lower-case letter is that letter or the upper-case one. -/
theorem eq_or_of_toLower {c lower : Char} (folded : c.toLower = lower)
    : c = lower ∨ c = Char.ofNat (lower.toNat - 32) := by
  unfold Char.toLower at folded
  split at folded
  · next upper =>
      have high : c.val.toNat ≤ 90 := UInt32.le_iff_toNat_le.mp upper.2
      have shift : 'a'.val - 'A'.val = 32 := by decide
      have shifted : lower.toNat = c.toNat + 32 := by
        rw [← folded]
        change (c.val + ('a'.val - 'A'.val)).toNat = c.val.toNat + 32
        rw [shift, UInt32.toNat_add]
        change (c.val.toNat + 32) % 4294967296 = c.val.toNat + 32
        omega
      right
      rw [shifted, Nat.add_sub_cancel, Char.ofNat_toNat]
  · exact .inl folded

/-- The letters that widths and multipliers begin with. -/
def suffixLetters : Text :=
  "yYuUsSlLnNdDkKmMgGtTpP".toList

theorem mem_suffixLetters {c : Char} (folded : c.toLower ∈ "yuslndkmgtp".toList)
    : c ∈ suffixLetters := by
  have cases : ∀ lower ∈ "yuslndkmgtp".toList,
      lower ∈ suffixLetters ∧ Char.ofNat (lower.toNat - 32) ∈ suffixLetters :=
    List.all_iff_forall_prop.mp (by decide)
  obtain ⟨isLower, isUpper⟩ := cases _ folded
  rcases eq_or_of_toLower (c := c) rfl with same | same
  · rwa [← same] at isLower
  · rwa [← same] at isUpper

/-- No suffix begins with a character that goes on with a decimal magnitude. -/
theorem not_decimal_of_suffix
    : ∀ c ∈ suffixLetters, c.isDigit = false ∧ c ≠ '.' ∧ fold c ≠ 'e' ∧ fold c ≠ 'x' :=
  List.all_iff_forall_prop.mp (by decide)

/-- Only the width of decimals begins with a hexadecimal digit. -/
theorem not_hexDigit_of_suffix
    : ∀ c ∈ suffixLetters, c.toLower ≠ 'd' → Text.isHexDigit c = false :=
  List.all_iff_forall_prop.mp (by decide)

-----------------------------------------------------------------------------------------
-- Widths and multipliers
-----------------------------------------------------------------------------------------

theorem widthOf?_eq_some_iff {letters : Text} {width : Width}
    : widthOf? letters = some width ↔ width.letters? = some letters := by
  constructor
  · intro named
    unfold widthOf? at named
    split at named <;> cases named <;> rfl
  · intro named
    cases width with
    | integer type => cases type <;> cases named <;> rfl
    | bigint => cases named; rfl
    | decimal => cases named; rfl
    | unknown letters => cases named

theorem multiplierOf?_eq_some_iff {letters : Text} {multiplier : Multiplier}
    : multiplierOf? letters = some multiplier ↔ letters = multiplier.letters := by
  constructor
  · intro named
    unfold multiplierOf? at named
    split at named <;> cases named <;> rfl
  · rintro rfl
    cases multiplier <;> rfl

theorem readWidth?_eq_some_iff {letters : Text} {width : Option Width}
    (plain : PlainLetters letters)
    : readWidth? letters = some width ↔ WritesWidth width letters := by
  have noLong : letters.contains 'ſ' = false := by simpa using plain.1
  unfold readWidth?
  rw [plain.map_fold, noLong]
  split
  · next empty =>
      rw [List.isEmpty_iff] at empty
      subst empty
      constructor
      · intro same
        cases same
        exact .absent
      · intro writes
        cases writes with
        | absent => rfl
        | present named => rcases widthOf?_eq_some_iff.mpr named
  · next nonempty =>
      rw [Option.map_eq_some_iff]
      constructor
      · rintro ⟨width, named, rfl⟩
        exact .present (widthOf?_eq_some_iff.mp named)
      · intro writes
        cases writes with
        | absent => exact absurd rfl nonempty
        | present named => exact ⟨_, widthOf?_eq_some_iff.mpr named, rfl⟩

/-- Letters that name a multiplier are two. -/
theorem length_of_lower_eq_letters {letters : Text} {multiplier : Multiplier}
    (named : Text.lower letters = multiplier.letters)
    : letters.length = 2 := by
  have two : multiplier.letters.length = 2 := by cases multiplier <;> rfl
  rw [← two, ← named, Text.lower, List.length_map]

/-- The last two letters of a width name no multiplier. -/
theorem multiplierOf?_of_writesWidth {width : Option Width} {letters : Text}
    (plain : PlainLetters letters) (typed : WritesWidth width letters)
    : multiplierOf? ((letters.drop (letters.length - 2)).map fold) = none := by
  have same : letters.length = (Text.lower letters).length := (List.length_map ..).symm
  rw [List.map_drop, plain.map_fold, same]
  cases typed with
  | absent => rfl
  | @present width _ named =>
      generalize Text.lower letters = folded at named
      cases width with
      | integer type => cases type <;> cases named <;> rfl
      | bigint => cases named; rfl
      | decimal => cases named; rfl
      | unknown letters => cases named

/-- A width and a multiplier are read exactly from the texts that write them one after the other.
Witness: no width ends in the letters of a multiplier.
-/
theorem readSuffix?_eq_some_iff {t : Text} {width : Option Width}
    {multiplier : Option Multiplier} (plain : PlainLetters t)
    : readSuffix? t = some (width, multiplier)
      ↔ ∃ letters scale, t = letters ++ scale
        ∧ WritesWidth width letters ∧ WritesMultiplier multiplier scale := by
  constructor
  · intro read
    unfold readSuffix? at read
    dsimp only at read
    have whole := List.take_append_drop (t.length - 2) t
    rw [← whole] at plain
    split at read
    · next found named =>
        obtain ⟨width, readWidth, same⟩ := Option.map_eq_some_iff.mp read
        cases same
        rw [plain.of_append.2.map_fold, multiplierOf?_eq_some_iff] at named
        exact ⟨_, _, whole.symm, (readWidth?_eq_some_iff plain.of_append.1).mp readWidth,
          .present named⟩
    · obtain ⟨width, readWidth, same⟩ := Option.map_eq_some_iff.mp read
      cases same
      rw [whole] at plain
      exact ⟨t, [], (List.append_nil t).symm, (readWidth?_eq_some_iff plain).mp readWidth,
        .absent⟩
  · rintro ⟨letters, scale, rfl, typed, scaled⟩
    obtain ⟨plainWidth, plainScale⟩ := plain.of_append
    have readWidth := (readWidth?_eq_some_iff plainWidth).mpr typed
    unfold readSuffix?
    dsimp only
    cases scaled with
    | absent =>
        rw [List.append_nil, multiplierOf?_of_writesWidth plainWidth typed]
        dsimp only
        rw [readWidth]
        rfl
    | present named =>
        have cut : (letters ++ scale).length - 2 = letters.length := by
          rw [List.length_append, length_of_lower_eq_letters named, Nat.add_sub_cancel]
        rw [cut, List.drop_left, List.take_left, plainScale.map_fold,
          multiplierOf?_eq_some_iff.mpr named]
        dsimp only
        rw [readWidth]
        rfl

/-- A text of letters begins with a letter that counts as the first of its lower-case letters. -/
theorem exists_cons_of_lower {t rest : Text} {first : Char}
    (folded : Text.lower t = first :: rest)
    : ∃ c more, t = c :: more ∧ c.toLower = first := by
  cases t with
  | nil => cases folded
  | cons c more => exact ⟨c, more, rfl, (List.cons.inj folded).1⟩

theorem exists_first_of_letters? {width : Width} {folded : Text}
    (named : width.letters? = some folded)
    : ∃ first rest, folded = first :: rest ∧ first ∈ "yuslndkmgtp".toList
        ∧ (width ≠ .decimal → first ≠ 'd') := by
  cases width with
  | integer type => cases type <;> cases named <;> exact ⟨_, _, rfl, by decide, by decide⟩
  | bigint => cases named; exact ⟨_, _, rfl, by decide, by decide⟩
  | decimal => cases named; exact ⟨_, _, rfl, by decide, fun differs => absurd rfl differs⟩
  | unknown letters => cases named

theorem exists_first_of_letters (multiplier : Multiplier)
    : ∃ first rest, multiplier.letters = first :: rest ∧ first ∈ "yuslndkmgtp".toList
        ∧ first ≠ 'd' := by
  cases multiplier <;> exact ⟨_, _, rfl, by decide, by decide⟩

/-- A suffix begins with one of its letters, which stands for the letter `d` only if the width is
that of decimals.
-/
theorem suffix_head {width : Option Width} {multiplier : Option Multiplier}
    {letters scale : Text} (typed : WritesWidth width letters)
    (scaled : WritesMultiplier multiplier scale)
    : ∀ c ∈ (letters ++ scale).head?,
        c ∈ suffixLetters ∧ (width ≠ some .decimal → c.toLower ≠ 'd') := by
  intro c head
  cases typed with
  | present named =>
      obtain ⟨first, rest, spelt, member, notD⟩ := exists_first_of_letters? named
      obtain ⟨c, more, rfl, rfl⟩ := exists_cons_of_lower spelt
      cases head
      exact ⟨mem_suffixLetters member, fun differs => notD fun same => differs (same ▸ rfl)⟩
  | absent =>
      cases scaled with
      | absent => cases head
      | @present multiplier _ named =>
          obtain ⟨first, rest, spelt, member, notD⟩ := exists_first_of_letters multiplier
          obtain ⟨c, more, rfl, rfl⟩ := exists_cons_of_lower (named.trans spelt)
          cases head
          exact ⟨mem_suffixLetters member, fun _ => notD⟩

end Literal

end LiveIni
