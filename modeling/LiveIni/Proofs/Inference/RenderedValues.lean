import LiveIni.Proofs.Inference.RenderedDecimals

/-!
Rendering fixed values and reading them again in the invariant format. A value is written in positional
notation, which writes a literal of exactly that value, and a value within the bounds of the fixed
decimals is rounded nowhere.
-/

namespace LiveIni

open Number

-----------------------------------------------------------------------------------------
-- Fixed values
-----------------------------------------------------------------------------------------

namespace Inference

/-- The greatest number that a fixed decimal can be. -/
def fixedBound : ℚ :=
  2 ^ 96 - 1

theorem value_maxFixed : maxFixed.value = fixedBound := by
  have coefficient : maxFixed.signedCoefficient = 2 ^ 96 - 1 := by decide
  have exponent : maxFixed.exponent = 0 := rfl
  rw [Decimal.value, coefficient, exponent, zpow_zero, mul_one, fixedBound]
  norm_num

theorem exceedsFixed_eq_false_iff {d : Decimal}
    : exceedsFixed d = false ↔ |d.value| ≤ fixedBound := by
  rw [← Bool.not_eq_true, exceedsFixed_iff, value_maxFixed, not_lt]

/-- The decimal is within the bounds of the fixed ones, with at most 28 places after the point and at
most 29 significant digits. The zeros at its end are not significant.
-/
structure IsFixed (r : Decimal) : Prop where
  bounded : |r.value| ≤ fixedBound
  places : -28 ≤ r.exponent
  digits : ∃ significant zeros : Nat, significant < 10 ^ 29
    ∧ r.coefficient = significant * 10 ^ zeros

/-- The number of a fixed decimal is rounded nowhere.
Witness: without the zeros at its end the decimal has at most 29 digits and keeps its form.
-/
theorem IsFixed.exists_toFixed? {r : Decimal} (fixed : IsFixed r)
    : ∃ d, toFixed? d = some d ∧ d.value = r.value := by
  obtain ⟨significant, zeros, few, coefficient⟩ := fixed.digits
  let d : Decimal := ⟨r.negative, significant, r.exponent + zeros⟩
  have same : d.value = r.value := by
    rw [← Decimal.value_zeros, ← coefficient]
  have within := exceedsFixed_eq_false_iff.mpr (same ▸ fixed.bounded)
  have places : -28 ≤ d.exponent := fixed.places.trans (Int.le_add_of_nonneg_right (by omega))
  have digits : d.coefficient < tenTo 29 := few
  refine ⟨d, toFixed?_eq_some_iff.mpr ⟨within, within, id, ?_⟩, same⟩
  rw [d.roundDigits_eq_self (by decide) digits, Decimal.roundTo, if_neg (Int.not_lt.mpr places)]

theorem isFixed_of_toFixed? {d r : Decimal} (found : toFixed? d = some r) : IsFixed r where
  bounded := exceedsFixed_eq_false_iff.mp (toFixed?_eq_some_iff.mp found).2.1
  places := (form_of_toFixed? found).1
  digits := ⟨r.coefficient, 0, (form_of_toFixed? found).2, (Nat.mul_one _).symm⟩

end Inference

/-- The value is an integer or a decimal within the bounds of the fixed decimals, and the number `q`. -/
inductive Value.IsFixed : Value → ℚ → Prop
  | int {n : Int} (bounded : |(n : ℚ)| ≤ Inference.fixedBound) : IsFixed (.int n) n
  | decimal {r : Decimal} (fixed : Inference.IsFixed r) : IsFixed (.decimal (.finite r)) r.value

-----------------------------------------------------------------------------------------
-- Integers as decimals
-----------------------------------------------------------------------------------------

namespace Number.Decimal

/-- An integer is written like the decimal without digits after the point. -/
theorem positional_ofInt (n : Int) : (ofInt n).positional = Text.ofInt n := by
  have unsigned : (if (ofInt n).isZero ∧ 0 ≤ (ofInt n).exponent then ['0']
      else withPoint (Text.ofNat n.natAbs) (0 + (Text.ofNat n.natAbs).length))
      = Text.ofNat n.natAbs := by
    split
    · next zero =>
        have none : n.natAbs = 0 := of_decide_eq_true zero.1
        rw [none]
        rfl
    · have some : 0 < (Text.ofNat n.natAbs).length := Nat.length_toDigits_pos
      rw [withPoint, if_neg (by omega), if_pos (by omega)]
      simp
  unfold positional Text.ofInt
  dsimp only [ofInt] at unsigned ⊢
  rw [unsigned, withSign]
  simp only [decide_eq_true_eq]

end Number.Decimal

namespace Inference

theorem natAbs_lt_of_bounded {n : Int} (bounded : |(n : ℚ)| ≤ fixedBound)
    : n.natAbs < 10 ^ 29 := by
  have size : ((n.natAbs : Nat) : ℚ) ≤ 2 ^ 96 - 1 := by
    rw [Nat.cast_natAbs, Int.cast_abs]
    exact bounded
  have few : ((n.natAbs : Nat) : ℚ) < (10 ^ 29 : Nat) := size.trans_lt (by norm_num)
  exact Nat.cast_lt.mp few

theorem isFixed_ofInt {n : Int} (bounded : |(n : ℚ)| ≤ fixedBound) : IsFixed (Decimal.ofInt n) where
  bounded := by rwa [Decimal.value_ofInt]
  places := by
    have exponent : (Decimal.ofInt n).exponent = 0 := rfl
    rw [exponent]
    decide
  digits := ⟨n.natAbs, 0, natAbs_lt_of_bounded bounded, (Nat.mul_one _).symm⟩

/-- A fixed value is rendered like a fixed decimal of the same number. -/
theorem exists_isFixed_render {v : Value} {q : ℚ} (fixed : v.IsFixed q)
    : ∃ r : Decimal, IsFixed r ∧ r.value = q ∧ v.render? = some r.positional := by
  cases fixed with
  | @int n bounded =>
      refine ⟨Decimal.ofInt n, isFixed_ofInt bounded, Decimal.value_ofInt n, ?_⟩
      have short : n.natAbs < tenTo Value.maxIntegerDigits :=
        (natAbs_lt_of_bounded bounded).trans_le (tenTo_le_tenTo (m := 29) (by decide))
      rw [Value.render?, Value.renderInt?, if_pos short, Decimal.positional_ofInt]
  | @decimal r fixed => exact ⟨r, fixed, rfl, rfl⟩

/-- The integers of a fixed width are far within the bounds of the fixed decimals. -/
theorem abs_le_of_holds {type : IntegerType} {n : Int} (held : type.holds n = true)
    : |(n : ℚ)| ≤ fixedBound := by
  have range : -(2 ^ 96 - 1) ≤ type.least ∧ type.greatest ≤ 2 ^ 96 - 1 := by
    cases type <;> decide
  rw [IntegerType.holds, Bool.and_eq_true, decide_eq_true_eq, decide_eq_true_eq] at held
  have bounded : |n| ≤ 2 ^ 96 - 1 := abs_le.mpr ⟨range.1.trans held.1, held.2.trans range.2⟩
  rw [fixedBound, ← Int.cast_abs]
  exact_mod_cast bounded

-----------------------------------------------------------------------------------------
-- Reading
-----------------------------------------------------------------------------------------

end Inference

/-- What the text of a number is read as: the same number, as the first of int32 and int64 that holds it
if the text has no point and one of them does, and as a decimal otherwise.
-/
inductive TypedValue.ReadsBack (s : Text) : ℚ → TypedValue → Prop
  | int32 {n : Int} (noPoint : '.' ∉ s) (held : IntegerType.int32.holds n = true)
    : ReadsBack s n (.integer .int32 n)
  | int64 {n : Int} (noPoint : '.' ∉ s) (large : IntegerType.int32.holds n = false)
      (held : IntegerType.int64.holds n = true)
    : ReadsBack s n (.integer .int64 n)
  | decimal {d : Decimal}
      (noInteger : '.' ∉ s → ∀ n : Int, d.value = n → IntegerType.int64.holds n = false)
    : ReadsBack s d.value (.decimal d)

theorem TypedValue.ReadsBack.number?_eq {s : Text} {q : ℚ} {w : TypedValue} (reads : w.ReadsBack s q)
    : w.number? = some q := by
  cases reads <;> rfl

namespace Inference

open TypedValue (ReadsBack)

theorem not_holds_of_fit?_eq_none {e : Decimal} {type : IntegerType}
    (unfit : fit? e (.integer type) = none) {n : Int} (value : e.value = n)
    : type.holds n = false := by
  by_contra held
  have fits := fit?_integer_eq_some_iff.mpr ⟨n, value, eq_true_of_ne_false held, rfl⟩
  cases unfit.symm.trans fits

/-- The number of a fixed decimal is fitted into the first kind that holds it, where the integers are
tried exactly if the text has no point.
-/
theorem exists_first_readsBack {s : Text} {e d : Decimal} {integral : Bool}
    (points : integral = true ↔ '.' ∉ s) (found : toFixed? e = some d) (same : d.value = e.value)
    : ∃ w, (candidates integral).findSome? (fit? e) = some w ∧ ReadsBack s e.value w := by
  cases integral with
  | false =>
      refine ⟨.decimal d, by simp [candidates, fit?, found], same ▸ .decimal fun noPoint => ?_⟩
      cases points.mpr noPoint
  | true =>
      have noPoint := points.mp rfl
      have tried : candidates true = [.integer .int32, .integer .int64, .decimal, .double] := rfl
      rw [tried, List.findSome?_cons]
      cases narrow : fit? e (.integer .int32) with
      | some w =>
          obtain ⟨n, value, held, rfl⟩ := fit?_integer_eq_some_iff.mp narrow
          exact ⟨_, rfl, value ▸ .int32 noPoint held⟩
      | none =>
          dsimp only
          rw [List.findSome?_cons]
          cases wide : fit? e (.integer .int64) with
          | some w =>
              obtain ⟨n, value, held, rfl⟩ := fit?_integer_eq_some_iff.mp wide
              have large := not_holds_of_fit?_eq_none narrow value
              exact ⟨_, rfl, value ▸ .int64 noPoint large held⟩
          | none =>
              refine ⟨.decimal d, by simp [fit?, found], same ▸ .decimal fun _ n value => ?_⟩
              exact not_holds_of_fit?_eq_none wide (same.symm.trans value)

/-- What is fitted into an integer of a fixed width or a decimal is a fixed value. -/
theorem exists_isFixed_of_fit? {e : Decimal} {kind : NumberKind} {v : TypedValue}
    (fits : fit? e kind = some v) (exact : (∃ type n, v = .integer type n) ∨ ∃ r, v = .decimal r)
    : ∃ q, v.number? = some q ∧ v.value.IsFixed q := by
  cases kind with
  | integer type =>
      obtain ⟨n, _, held, rfl⟩ := fit?_integer_eq_some_iff.mp fits
      exact ⟨n, rfl, .int (abs_le_of_holds held)⟩
  | bigint =>
      obtain ⟨n, _, rfl⟩ := Option.map_eq_some_iff.mp fits
      simp at exact
  | decimal =>
      obtain ⟨r, found, rfl⟩ := Option.map_eq_some_iff.mp fits
      exact ⟨r.value, rfl, .decimal (isFixed_of_toFixed? found)⟩
  | double =>
      obtain ⟨x, _, rfl⟩ := Option.map_eq_some_iff.mp fits
      simp at exact

theorem separated_invariant : NumberFormat.invariant.Separated where
  distinct := by decide
  decimal := by
    intro c member
    cases List.mem_singleton.mp member
    decide
  group := nofun

/-- The text of a decimal writes a literal of exactly that number in the invariant format, without a
width, and has a point exactly if the literal has a fraction.
-/
theorem exists_writes_positional (r : Decimal)
    : ∃ l e, NumberFormat.invariant.Writes l r.positional r.positional ∧ 'ſ' ∉ r.positional
        ∧ l.width = none ∧ (l.isIntegral = true ↔ '.' ∉ r.positional)
        ∧ l.toDecimal = .ok e ∧ e.value = r.value := by
  obtain ⟨whole, fraction, parts⟩ := r.exists_writesPositional
  have digits := parts.toPositionalDigits
  have writes := separated_invariant.writes_positional digits r.negative nofun (.inl rfl)
  have plain := (digits.plainLetters r.negative).1
  obtain ⟨e, found, value⟩ :=
    Literal.exists_toDecimal_positional r.negative whole fraction
  have points : (Literal.positional r.negative whole fraction).isIntegral = true
      ↔ '.' ∉ r.positional := by
    have contains := NumberFormat.contains_point digits r.negative
    rw [← parts.text] at contains
    rw [← List.contains_iff_mem, contains, Literal.isIntegral, Literal.positional]
    cases fraction <;> simp
  rw [← parts.text] at writes plain
  exact ⟨_, e, writes, plain, rfl, points, found, value.trans parts.value⟩

theorem kinds_of_no_width {l : Literal} (noWidth : l.width = none)
    : l.kinds = candidates l.isIntegral := by
  rw [Literal.kinds, noWidth]

/-- The text of a fixed decimal is read as its number. -/
theorem exists_readsBack {r : Decimal} (fixed : IsFixed r)
    : ∃ w, infer .invariant r.positional = .ok (w, none) ∧ ReadsBack r.positional r.value w := by
  obtain ⟨l, e, writes, plain, noWidth, points, found, number⟩ := exists_writes_positional r
  obtain ⟨near, keeps, same⟩ := fixed.exists_toFixed?
  obtain ⟨d, fits, kept⟩ := exists_toFixed? keeps (number.trans same.symm)
  obtain ⟨w, first, reads⟩ :=
    exists_first_readsBack points fits (kept.trans (same.trans number.symm))
  rw [← kinds_of_no_width noWidth] at first
  rw [number] at reads
  exact ⟨w, infer_of_writes writes plain found first, reads⟩

end Inference

open Inference

/-- A fixed value is rendered as a text that is read as the same number in the invariant format. Every
integer of a fixed width and every decimal that any text is read as in any format is such a value.
Witness: a value is rendered like a decimal that is rounded nowhere.
-/
theorem infer_rendered_value
    : (∀ {v : Value} {q : ℚ}, v.IsFixed q →
        ∃ s w, v.render? = some s ∧ infer .invariant s = .ok (w, none) ∧ w.ReadsBack s q)
      ∧ ∀ {format : NumberFormat} {t : Text} {v : TypedValue} {invalid : Option InvalidLiteral},
        infer format t = .ok (v, invalid) →
        (∃ type n, v = .integer type n) ∨ (∃ r, v = .decimal r) →
        ∃ q s w, v.number? = some q ∧ v.render? = some s
          ∧ infer .invariant s = .ok (w, none) ∧ w.ReadsBack s q := by
  have reads {v : Value} {q : ℚ} (fixed : v.IsFixed q)
      : ∃ s w, v.render? = some s ∧ infer .invariant s = .ok (w, none) ∧ w.ReadsBack s q := by
    obtain ⟨r, isFixed, rfl, rendered⟩ := exists_isFixed_render fixed
    obtain ⟨w, inferred, readsBack⟩ := exists_readsBack isFixed
    exact ⟨r.positional, w, rendered, inferred, readsBack⟩
  refine ⟨reads, fun {format t v invalid} inferred exact => ?_⟩
  obtain ⟨b, rfl⟩ | rfl | ⟨e, kind, fits⟩ := infer_cases inferred
  · simp at exact
  · simp at exact
  · obtain ⟨q, number, fixed⟩ := exists_isFixed_of_fit? fits exact
    obtain ⟨s, w, rendered, reread, readsBack⟩ := reads fixed
    exact ⟨q, s, w, number, rendered, reread, readsBack⟩

/-- The greatest fixed number is read back without a point, and with all its digits after the point but
the first.
-/
theorem infer_rendered_value_greatest
    : let format : NumberFormat := ⟨[','], ['.']⟩
      let localized := "-7,9228162514264337593543950335".toList
      let greatest : Decimal := ⟨true, 2 ^ 96 - 1, -28⟩
      (Value.int (2 ^ 96 - 1)).IsFixed (2 ^ 96 - 1 : Int)
        ∧ (∃ w, infer .invariant "79228162514264337593543950335".toList = .ok (w, none)
          ∧ w.number? = some (2 ^ 96 - 1 : Int))
        ∧ infer format localized = .ok (.decimal greatest, none)
        ∧ ∃ w, infer .invariant "-7.9228162514264337593543950335".toList = .ok (w, none)
          ∧ w.number? = some greatest.value := by
  intro format localized greatest
  have fixed : (Value.int (2 ^ 96 - 1)).IsFixed (2 ^ 96 - 1 : Int) := by
    refine .int ?_
    rw [fixedBound]
    norm_num
  have inferred : infer format localized = .ok (.decimal greatest, none) := by decide +kernel
  refine ⟨fixed, ?_, inferred, ?_⟩
  · obtain ⟨s, w, rendered, reread, reads⟩ := infer_rendered_value.1 fixed
    have written : (Value.int (2 ^ 96 - 1)).render?
        = some "79228162514264337593543950335".toList := by decide +kernel
    cases rendered.symm.trans written
    exact ⟨w, reread, reads.number?_eq⟩
  · obtain ⟨q, s, w, number, rendered, reread, reads⟩ :=
      infer_rendered_value.2 inferred (.inr ⟨greatest, rfl⟩)
    have written : (TypedValue.decimal greatest).render?
        = some "-7.9228162514264337593543950335".toList := by decide +kernel
    cases rendered.symm.trans written
    cases number
    exact ⟨w, reread, reads.number?_eq⟩

end LiveIni
