import LiveIni.Proofs.Inference.Fitting
import LiveIni.Proofs.Literal.Reading
import LiveIni.Proofs.Literal.Value

/-!
Numbers are inferred with their exact values: where a literal is read as an integer, it is the
exact value of the literal, and a literal is read as one whenever its value fits.
-/

namespace LiveIni

open Number

namespace Inference

-----------------------------------------------------------------------------------------
-- Fitting integers
-----------------------------------------------------------------------------------------

/-- The decimals that are not tried are those that no integer of 4301 digits equals. -/
theorem tooLarge_iff {d : Decimal} {n : Int} (same : d.value = n)
    : (!d.isZero ∧ (Value.maxIntegerDigits : Int) < d.adjusted)
      ↔ tenTo (Value.maxIntegerDigits + 1) ≤ n.natAbs := by
  have size : |d.value| = (n.natAbs : ℚ) := by
    rw [same, Nat.cast_natAbs, Int.cast_abs]
  by_cases zero : d.coefficient = 0
  · have isZero : d.isZero = true := decide_eq_true zero
    have noSize : n.natAbs = 0 := by
      rw [d.value_eq_zero_iff.mpr zero, abs_zero] at size
      exact_mod_cast size.symm
    have positive := tenTo_pos (Value.maxIntegerDigits + 1)
    simp only [isZero, noSize, Bool.not_true, Bool.false_eq_true, false_and, false_iff]
    omega
  · have notZero : d.isZero = false := decide_eq_false zero
    have power : (10 : ℚ) ^ ((Value.maxIntegerDigits : Int) + 1)
        = (tenTo (Value.maxIntegerDigits + 1) : Nat) := by
      rw [cast_tenTo, ← zpow_natCast]
      push_cast
      rfl
    simp only [notZero, Bool.not_false, true_and]
    rw [d.lt_adjusted_iff zero, size, power]
    exact Nat.cast_le

/-- The integer of a decimal is its value, if it has at most 4301 digits. -/
theorem toInteger?_eq_some_iff {d : Decimal} {n : Int}
    : toInteger? d = some n ↔ d.value = n ∧ n.natAbs < tenTo (Value.maxIntegerDigits + 1) := by
  have tried : toInteger? d = some n
      ↔ ¬(!d.isZero ∧ (Value.maxIntegerDigits : Int) < d.adjusted) ∧ d.toInt? = some n := by
    unfold toInteger?
    split
    · next large => exact iff_of_false nofun fun both => both.1 large
    · next small => exact (and_iff_right small).symm
  rw [tried, d.toInt?_eq_some_iff, and_comm]
  refine and_congr_right fun same => ?_
  rw [tooLarge_iff same, Nat.not_le]

/-- The integers of a fixed width are far from the limit. -/
theorem natAbs_lt_of_holds {type : IntegerType} {n : Int} (held : type.holds n = true)
    : n.natAbs < tenTo Value.maxIntegerDigits := by
  have range : -(twoTo 64 : Int) ≤ type.least ∧ type.greatest ≤ (twoTo 64 : Int) := by
    cases type <;> decide
  have digits : twoTo 64 < tenTo Value.maxIntegerDigits :=
    (Nat.lt_succ_self _).trans_le ((by decide : twoTo 64 + 1 ≤ tenTo 64).trans
      (tenTo_le_tenTo (by decide)))
  rw [IntegerType.holds, Bool.and_eq_true, decide_eq_true_eq, decide_eq_true_eq] at held
  omega

theorem fit?_integer_eq_some_iff {d : Decimal} {type : IntegerType} {v : TypedValue}
    : fit? d (.integer type) = some v
      ↔ ∃ n : Int, d.value = n ∧ type.holds n = true ∧ v = .integer type n := by
  rw [fit?, Option.bind_eq_some_iff]
  constructor
  · rintro ⟨n, found, fits⟩
    split at fits
    · next held =>
        cases fits
        exact ⟨n, (toInteger?_eq_some_iff.mp found).1, held, rfl⟩
    · cases fits
  · rintro ⟨n, same, held, rfl⟩
    have short := (natAbs_lt_of_holds held).trans_le (tenTo_le_tenTo (Nat.le_succ _))
    exact ⟨n, toInteger?_eq_some_iff.mpr ⟨same, short⟩, if_pos held⟩

theorem fit?_bigint_eq_some_iff {d : Decimal} {v : TypedValue}
    : fit? d .bigint = some v
      ↔ ∃ n : Int, d.value = n ∧ n.natAbs < tenTo (Value.maxIntegerDigits + 1)
        ∧ v = .bigint n := by
  rw [fit?, Option.map_eq_some_iff]
  refine exists_congr fun n => ?_
  rw [toInteger?_eq_some_iff, and_assoc, @eq_comm _ v]

theorem fit?_integer_eq_none {d : Decimal} {type : IntegerType}
    (unfit : ∀ n : Int, d.value = n → type.holds n = false)
    : fit? d (.integer type) = none := by
  refine Option.eq_none_iff_forall_ne_some.mpr fun v fits => ?_
  obtain ⟨n, value, held, _⟩ := fit?_integer_eq_some_iff.mp fits
  rw [unfit n value] at held
  cases held

theorem fit?_bigint_eq_none {d : Decimal}
    (unfit : ∀ n : Int, d.value = n → tenTo (Value.maxIntegerDigits + 1) ≤ n.natAbs)
    : fit? d .bigint = none := by
  refine Option.eq_none_iff_forall_ne_some.mpr fun v fits => ?_
  obtain ⟨n, value, short, _⟩ := fit?_bigint_eq_some_iff.mp fits
  exact Nat.not_lt.mpr (unfit n value) short

-----------------------------------------------------------------------------------------
-- Reading numbers
-----------------------------------------------------------------------------------------

end Inference

/-- The reading is a number of an integer kind. -/
def NumberReading.IsInteger : NumberReading → Prop
  | .number (.integer _ _) => True
  | .number (.bigint _) => True
  | _ => False

/-- A literal whose power of ten is in range is read exactly. With an integer width it is read as
the integer that it equals, if the width has room for it, and is invalid otherwise. Without a
width it is read as the first of int32 and int64 that has room, if it has neither a fraction nor a
power of ten, and as no integer otherwise.
-/
structure Literal.ReadsExactly (l : Literal) (source : Text)
    (reading : Except InferenceFault NumberReading) : Prop where
  integer : ∀ {type : IntegerType} {n : Int}, l.width = some (.integer type) → l.value = n →
    type.holds n = true → reading = .ok (.number (.integer type n))
  integerUnfit : ∀ {type : IntegerType}, l.width = some (.integer type) →
    (∀ n : Int, l.value = n → type.holds n = false) →
    reading = .ok (.invalid ⟨source, .doesNotFit (.integer type)⟩)
  bigint : ∀ {n : Int}, l.width = some .bigint → l.value = n →
    n.natAbs < tenTo (Value.maxIntegerDigits + 1) → reading = .ok (.number (.bigint n))
  bigintUnfit : l.width = some .bigint →
    (∀ n : Int, l.value = n → tenTo (Value.maxIntegerDigits + 1) ≤ n.natAbs) →
    reading = .ok (.invalid ⟨source, .doesNotFit .bigint⟩)
  int32 : ∀ {n : Int}, l.width = none → l.isIntegral = true → l.value = n →
    IntegerType.int32.holds n = true → reading = .ok (.number (.integer .int32 n))
  int64 : ∀ {n : Int}, l.width = none → l.isIntegral = true → l.value = n →
    IntegerType.int32.holds n = false → IntegerType.int64.holds n = true →
    reading = .ok (.number (.integer .int64 n))
  large : l.width = none → (∀ n : Int, l.value = n → IntegerType.int64.holds n = false) →
    ∃ r, reading = .ok r ∧ ¬r.IsInteger
  pointed : l.width = none → l.isIntegral = false → ∃ r, reading = .ok r ∧ ¬r.IsInteger

namespace Inference

theorem readAs_of_fit? {source : Text} {d : Decimal} {kind : NumberKind} {v : TypedValue}
    (fits : fit? d kind = some v)
    : readAs source d kind = .number v := by
  rw [readAs, fits]

theorem readAs_of_unfit {source : Text} {d : Decimal} {kind : NumberKind}
    (unfit : fit? d kind = none)
    : readAs source d kind = .invalid ⟨source, .doesNotFit kind⟩ := by
  rw [readAs, unfit]

/-- Only int32 and int64 are tried of the integer types. -/
theorem type_of_tried {integral : Bool} {type : IntegerType}
    (tried : .integer type ∈ candidates integral)
    : type = .int32 ∨ type = .int64 := by
  cases integral with
  | false => simp [candidates] at tried
  | true => simpa [candidates] using tried

theorem bigint_not_tried {integral : Bool} : .bigint ∉ candidates integral := by
  cases integral <;> simp [candidates]

section Literal

variable {source normalized : Text} {l : Literal} {d : Decimal}

/-- A literal with an integer width is read as its decimal fitted into that width. -/
theorem readLiteral_of_width {kind : NumberKind} (found : l.toDecimal = .ok d)
    (width : l.width = some .bigint ∧ kind = .bigint
      ∨ ∃ type, l.width = some (.integer type) ∧ kind = .integer type)
    : readLiteral source normalized l = .ok (readAs source d kind) := by
  rw [readLiteral, found]
  obtain ⟨width, rfl⟩ | ⟨type, width, rfl⟩ := width <;> rw [width]

/-- A literal without a width is read as its decimal fitted into the first kind that has room. -/
theorem readLiteral_of_first {kind : NumberKind} {v : TypedValue} {before after : List NumberKind}
    (found : l.toDecimal = .ok d) (noWidth : l.width = none)
    (tried : candidates l.isIntegral = before ++ kind :: after)
    (unfit : ∀ other ∈ before, fit? d other = none) (fits : fit? d kind = some v)
    : readLiteral source normalized l = .ok (.number v) := by
  have first : (candidates l.isIntegral).findSome? (fit? d) = some v := by
    rw [tried, List.findSome?_append, List.findSome?_eq_none_iff.mpr unfit, List.findSome?_cons,
      fits]
    rfl
  rw [readLiteral, found, noWidth]
  dsimp only
  rw [first]

/-- A decimal fitted into a kind is an integer only if the kind is one of integers. -/
theorem not_isInteger_of_fit? {kind : NumberKind} {v : TypedValue} (fits : fit? d kind = some v)
    (noInteger : kind = .decimal ∨ kind = .double)
    : ¬(NumberReading.number v).IsInteger := by
  rcases noInteger with rfl | rfl <;>
    obtain ⟨_, _, rfl⟩ := Option.map_eq_some_iff.mp fits <;> exact id

/-- A literal without a width is read as no integer if none of the integer types that are tried
holds its value.
-/
theorem readLiteral_not_isInteger (found : l.toDecimal = .ok d) (noWidth : l.width = none)
    (unfit : ∀ type, .integer type ∈ candidates l.isIntegral →
      ∀ n : Int, d.value = n → type.holds n = false)
    : ∃ r, readLiteral source normalized l = .ok r ∧ ¬r.IsInteger := by
  rw [readLiteral, found, noWidth]
  dsimp only
  cases first : (candidates l.isIntegral).findSome? (fit? d) with
  | none => exact ⟨_, rfl, id⟩
  | some v =>
      obtain ⟨kind, tried, fits⟩ := List.exists_of_findSome?_eq_some first
      refine ⟨_, rfl, ?_⟩
      cases kind with
      | integer type =>
          obtain ⟨n, same, held, rfl⟩ := fit?_integer_eq_some_iff.mp fits
          rw [unfit type tried n same] at held
          cases held
      | bigint => exact absurd tried bigint_not_tried
      | decimal => exact not_isInteger_of_fit? fits (.inl rfl)
      | double => exact not_isInteger_of_fit? fits (.inr rfl)

/-- What int32 has room for, int64 has room for. -/
theorem holds_int64_of_int32 {n : Int} (held : IntegerType.int32.holds n = true)
    : IntegerType.int64.holds n = true := by
  have wider : IntegerType.int64.least ≤ IntegerType.int32.least
      ∧ IntegerType.int32.greatest ≤ IntegerType.int64.greatest := by
    decide
  simp only [IntegerType.holds, Bool.and_eq_true, decide_eq_true_eq] at held ⊢
  omega

/-- What int32 has no room for is tried for int64 next. -/
theorem readLiteral_int64 {n : Int} (found : l.toDecimal = .ok d) (noWidth : l.width = none)
    (integral : l.isIntegral = true) (value : d.value = n)
    (narrow : IntegerType.int32.holds n = false) (held : IntegerType.int64.holds n = true)
    : readLiteral source normalized l = .ok (.number (.integer .int64 n)) := by
  have tried : candidates l.isIntegral
      = [.integer .int32] ++ .integer .int64 :: [.decimal, .double] := by
    rw [integral]
    rfl
  have tooLarge : fit? d (.integer .int32) = none := by
    refine fit?_integer_eq_none fun m other => ?_
    have sameInt : m = n := by exact_mod_cast other.symm.trans value
    rw [sameInt, narrow]
  have fits := fit?_integer_eq_some_iff.mpr ⟨n, value, held, rfl⟩
  exact readLiteral_of_first found noWidth tried (by simpa using tooLarge) fits

/-- What int64 has no room for is read as no integer. -/
theorem readLiteral_large (found : l.toDecimal = .ok d) (noWidth : l.width = none)
    (unfit : ∀ n : Int, d.value = n → IntegerType.int64.holds n = false)
    : ∃ r, readLiteral source normalized l = .ok r ∧ ¬r.IsInteger := by
  refine readLiteral_not_isInteger found noWidth fun type tried n value => ?_
  have large := unfit n value
  rcases type_of_tried tried with rfl | rfl
  · by_contra held
    rw [holds_int64_of_int32 (Bool.eq_true_of_not_eq_false held)] at large
    cases large
  · exact large

/-- A literal whose decimal is found is read exactly.
Witness: the decimal has the exact value of the literal, and it is fitted into an integer type
exactly if the type holds its value.
-/
theorem readLiteral_exact (found : l.toDecimal = .ok d) (same : d.value = l.value)
    : l.ReadsExactly source (readLiteral source normalized l) := by
  constructor <;> try simp only [← same]
  case integer =>
    intro type n width value held
    have fits := fit?_integer_eq_some_iff.mpr ⟨n, value, held, rfl⟩
    rw [readLiteral_of_width found (.inr ⟨type, width, rfl⟩), readAs_of_fit? fits]
  case integerUnfit =>
    intro type width unfit
    rw [readLiteral_of_width found (.inr ⟨type, width, rfl⟩),
      readAs_of_unfit (fit?_integer_eq_none unfit)]
  case bigint =>
    intro n width value short
    have fits := fit?_bigint_eq_some_iff.mpr ⟨n, value, short, rfl⟩
    rw [readLiteral_of_width found (.inl ⟨width, rfl⟩), readAs_of_fit? fits]
  case bigintUnfit =>
    intro width unfit
    rw [readLiteral_of_width found (.inl ⟨width, rfl⟩),
      readAs_of_unfit (fit?_bigint_eq_none unfit)]
  case int32 =>
    intro n noWidth integral value held
    have tried : candidates l.isIntegral
        = [] ++ .integer .int32 :: [.integer .int64, .decimal, .double] := by
      rw [integral]
      rfl
    have fits := fit?_integer_eq_some_iff.mpr ⟨n, value, held, rfl⟩
    exact readLiteral_of_first found noWidth tried (by simp) fits
  case int64 =>
    intro n noWidth integral value narrow held
    exact readLiteral_int64 found noWidth integral value narrow held
  case large =>
    intro noWidth unfit
    exact readLiteral_large found noWidth unfit
  case pointed =>
    intro noWidth pointed
    refine readLiteral_not_isInteger found noWidth ?_
    rw [pointed]
    simp [candidates]

end Literal

/-- The invariant format is that of the literals themselves. -/
theorem normalize?_invariant (t : Text) : NumberFormat.invariant.normalize? t = some t := by
  unfold NumberFormat.normalize?
  split <;> rfl

theorem readNumber_of_none {t : Text} (unread : Literal.read? (Text.strip t) = none)
    : readNumber NumberFormat.invariant t = .ok .notNumeric := by
  simp only [readNumber, normalize?_invariant, unread]

theorem readNumber_of_some {t : Text} {l : Literal}
    (read : Literal.read? (Text.strip t) = some l)
    : readNumber NumberFormat.invariant t = readLiteral (Text.strip t) (Text.strip t) l := by
  simp only [readNumber, normalize?_invariant, read]

/-- A text is numeric exactly if it writes a literal, once the blanks around it are gone, and a
literal with a power of ten in range is read exactly. One out of range makes the literal invalid if
there is a digit that it would move.
-/
theorem readNumber_exact (t : Text) (plain : Literal.PlainLetters t)
    (short : ∀ l, Literal.Writes l (Text.strip t)
      → ∀ e ∈ l.magnitude.written?, e.digits.length ≤ Value.maxIntegerDigits)
    : let reading := readNumber NumberFormat.invariant t
      (reading = .ok .notNumeric ↔ ¬∃ l, Literal.Writes l (Text.strip t))
        ∧ ∀ l, Literal.Writes l (Text.strip t) →
          (l.magnitude.HasFarExponent
              → reading = .ok (.invalid ⟨Text.strip t, .exponentOutOfRange⟩))
            ∧ (¬l.magnitude.HasFarExponent → l.ReadsExactly (Text.strip t) reading) := by
  have plainStrip : Literal.PlainLetters (Text.strip t) := by
    obtain ⟨lead, trail, whole, _⟩ := Text.exists_eq_strip t
    rw [whole] at plain
    exact plain.of_append.1.of_append.2
  cases read : Literal.read? (Text.strip t) with
  | none =>
      have writesNone (l : Literal) : ¬Literal.Writes l (Text.strip t) := by
        rw [← Literal.read?_eq_some_iff plainStrip, read]
        nofun
      rw [readNumber_of_none read]
      exact ⟨iff_of_true rfl fun ⟨l, writes⟩ => writesNone l writes,
        fun l writes => absurd writes (writesNone l)⟩
  | some found =>
      have writes := (Literal.read?_eq_some_iff plainStrip).mp read
      rw [readNumber_of_some read]
      have decimal := Literal.toDecimal_cases (short found writes)
      refine ⟨iff_of_false (fun notNumeric => ?_) (not_not_intro ⟨found, writes⟩),
        fun l other => ?_⟩
      · obtain ⟨_, impossible⟩ | ⟨_, _, _, _, _, impossible⟩ := readLiteral_cases notNumeric <;>
          cases impossible
      · have same : found = l := by
          rw [← Literal.read?_eq_some_iff plainStrip, read] at other
          exact Option.some.inj other
        subst same
        rcases decimal with ⟨far, fault⟩ | ⟨near, d, value, exact⟩
        · refine ⟨fun _ => ?_, fun near => absurd far near⟩
          rw [readLiteral, fault]
        · exact ⟨fun far => absurd far near, fun _ => readLiteral_exact value exact⟩

/-- A literal of the least int16, with each optional part. -/
def leastInt16 : Literal where
  negative := true
  magnitude := .decimal ['3'] (some ['2']) (some ⟨false, ['1']⟩)
  width := some (.integer .int16)
  multiplier := some .kilo

/-- The sign is applied before the range is checked, so that the least int16 can be written. -/
theorem readNumber_exact_leastInt16
    : let t := " -3.2e1sKB ".toList
      Literal.Writes leastInt16 (Text.strip t)
        ∧ leastInt16.value = -32768
        ∧ readNumber NumberFormat.invariant t = .ok (.number (.integer .int16 (-32768))) := by
  intro t
  have plain : Literal.PlainLetters t := by constructor <;> decide
  have plainStrip : Literal.PlainLetters (Text.strip t) := by constructor <;> decide
  have read : Literal.read? (Text.strip t) = some leastInt16 := by decide
  have writes := (Literal.read?_eq_some_iff plainStrip).mp read
  have value : leastInt16.value = -32768 := by
    have three : Text.decimalValue ['3'] = 3 := by decide
    have two : Text.decimalValue ['2'] = 2 := by decide
    have one : (WrittenExponent.mk false ['1']).value = 1 := by decide
    norm_num [leastInt16, Literal.value, Magnitude.value, Magnitude.exponent, Magnitude.written?,
      three, two, one, Multiplier.power]
  have short : ∀ l, Literal.Writes l (Text.strip t)
      → ∀ e ∈ l.magnitude.written?, e.digits.length ≤ Value.maxIntegerDigits := by
    intro l other e written
    rw [← Literal.read?_eq_some_iff plainStrip, read] at other
    cases other
    cases written
    decide
  have near : ¬leastInt16.magnitude.HasFarExponent := fun far => absurd far.1 (by decide)
  have exact := ((readNumber_exact t plain short).2 leastInt16 writes).2 near
  exact ⟨writes, value, exact.integer rfl (by exact_mod_cast value) (by decide)⟩

end Inference

end LiveIni
