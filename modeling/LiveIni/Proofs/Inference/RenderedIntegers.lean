import LiveIni.Proofs.Inference.RenderedValues

/-!
Rendering integers of any size and reading them again in the invariant format. The text of an integer
carries no width, so that it is read as the first of the usual kinds that has room for it. Beyond the
bound of the fixed decimals that is a double, which is the integer only if some double is.
-/

namespace LiveIni

open Number
open Inference (fixedBound)

/-- What the text of an integer is read as, and what is reported of it: the same number within the bound
of the fixed decimals, beyond it the nearest double, and the text itself if the nearest number is too
large for a double.
-/
inductive TypedValue.RereadsInteger (s : Text) (n : Int) : TypedValue → Option InvalidLiteral → Prop
  | same {w : TypedValue} (bounded : |(n : ℚ)| ≤ fixedBound) (reads : w.ReadsBack s n)
    : RereadsInteger s n w none
  | double {x : Double} {r : ℚ} (beyond : fixedBound < |(n : ℚ)|) (nearest : Double.Nearest n r)
      (small : |r| < 2 ^ 1024) (value : x.value? = some r)
    : RereadsInteger s n (.double x) none
  | text {r : ℚ} (beyond : fixedBound < |(n : ℚ)|) (nearest : Double.Nearest n r)
      (large : 2 ^ 1024 ≤ |r|)
    : RereadsInteger s n (.string s) (some ⟨s, .fitsNothing⟩)

/-- What is read again is the integer exactly if that is within the bound or some double is it. -/
theorem TypedValue.RereadsInteger.number?_eq_iff {s : Text} {n : Int} {w : TypedValue}
    {invalid : Option InvalidLiteral} (rereads : w.RereadsInteger s n invalid)
    : w.number? = some (n : ℚ) ↔ |(n : ℚ)| ≤ fixedBound ∨ Double.IsValue n := by
  cases rereads with
  | same bounded reads => exact iff_of_true reads.number?_eq (.inl bounded)
  | @double x r beyond nearest small value =>
      have exact_iff := nearest.eq_iff_isValue
      rw [and_iff_left small] at exact_iff
      rw [TypedValue.number?, value, Option.some.injEq, exact_iff,
        or_iff_right (not_le.mpr beyond)]
  | text beyond nearest large =>
      refine iff_of_false nofun ?_
      rintro (bounded | value)
      · exact not_le.mpr beyond bounded
      · exact not_le.mpr (nearest.eq_iff_isValue.mpr value).2 large

namespace Inference

open TypedValue (RereadsInteger)

/-- A decimal of at least one becomes the nearest double, or there is none because the nearest number is
too large.
-/
theorem toDouble?_outcome {d : Decimal} (atLeastOne : 1 ≤ |d.value|)
    : ∃ r, Double.Nearest d.value r
        ∧ ((∃ x, toDouble? d = some x ∧ |r| < 2 ^ 1024 ∧ x.value? = some r)
          ∨ toDouble? d = none ∧ 2 ^ 1024 ≤ |r|) := by
  have rounds := Double.ofDecimal_rounds d
  unfold toDouble?
  dsimp only
  generalize Double.ofDecimal d = x at rounds
  cases rounds with
  | @finite _ r nearest small value =>
      have isFinite := Double.isFinite_of_value? value
      have notZero : x.isZero = false := by
        by_contra zero
        have none := Double.value?_of_isZero (eq_true_of_ne_false zero)
        exact nearest.ne_zero atLeastOne (Option.some.inj (value.symm.trans none))
      exact ⟨r, nearest, .inl ⟨x, by simp [isFinite, notZero], small, value⟩⟩
  | @infinite negative r nearest large =>
      have notFinite : (Double.infinite negative).isFinite = false := rfl
      exact ⟨r, nearest, .inr ⟨by simp [notFinite], large⟩⟩

/-- Beyond the bound of the fixed decimals only a double can have room for a number. -/
theorem findSome?_of_beyond {e : Decimal} (beyond : fixedBound < |e.value|) (integral : Bool)
    : (candidates integral).findSome? (fit? e) = (toDouble? e).map .double := by
  have noDecimal : fit? e .decimal = none := by
    have exceeds : exceedsFixed e = true := by
      by_contra within
      exact not_le.mpr beyond (exceedsFixed_eq_false_iff.mp (eq_false_of_ne_true within))
    rw [fit?, toFixed?, if_pos exceeds, Option.map_none]
  have noInteger (type : IntegerType) : fit? e (.integer type) = none := by
    refine Option.eq_none_iff_forall_ne_some.mpr fun v fits => ?_
    obtain ⟨n, value, held, _⟩ := fit?_integer_eq_some_iff.mp fits
    exact not_le.mpr (value ▸ beyond) (abs_le_of_holds held)
  have asDouble : fit? e .double = (toDouble? e).map .double := rfl
  cases integral with
  | true => simp [candidates, noInteger, noDecimal, asDouble]
  | false => simp [candidates, noDecimal, asDouble]

/-- The text of an integer is read as described.
Witness: beyond the bound its exact value is rounded once, to the nearest double.
-/
theorem exists_rereadsInteger (n : Int)
    : ∃ w invalid, infer .invariant (Text.ofInt n) = .ok (w, invalid)
        ∧ RereadsInteger (Text.ofInt n) n w invalid := by
  have sameText := Decimal.positional_ofInt n
  by_cases bounded : |(n : ℚ)| ≤ fixedBound
  · obtain ⟨w, inferred, reads⟩ := exists_readsBack (isFixed_ofInt bounded)
    rw [sameText] at inferred reads
    rw [Decimal.value_ofInt] at reads
    exact ⟨w, none, inferred, .same bounded reads⟩
  · have beyond := not_le.mp bounded
    obtain ⟨l, e, writes, plain, noWidth, _, found, number⟩ :=
      exists_writes_positional (Decimal.ofInt n)
    rw [sameText] at writes plain
    rw [Decimal.value_ofInt] at number
    have kinds : l.kinds.findSome? (fit? e) = (toDouble? e).map .double := by
      rw [kinds_of_no_width noWidth, findSome?_of_beyond (number ▸ beyond)]
    have atLeastOne : 1 ≤ |e.value| := by
      have one : 1 ≤ fixedBound := by norm_num [fixedBound]
      exact one.trans (number ▸ beyond.le)
    obtain ⟨r, nearest, outcome⟩ := toDouble?_outcome atLeastOne
    rw [number] at nearest
    rcases outcome with ⟨x, fits, small, value⟩ | ⟨unfit, large⟩
    · rw [fits, Option.map_some] at kinds
      exact ⟨_, none, infer_of_writes writes plain found kinds, .double beyond nearest small value⟩
    · rw [unfit, Option.map_none] at kinds
      have bare : Text.strip (Text.ofInt n) = Text.ofInt n :=
        Option.some.inj ((normalize?_invariant _).symm.trans writes.normal)
      have misfit : l.misfit = .fitsNothing := by
        rw [Literal.misfit, noWidth]
        rfl
      have reported := infer_of_unfit writes plain found kinds
      rw [bare, misfit] at reported
      exact ⟨_, _, reported, .text beyond nearest large⟩

/-- A big integer that a text is read as is the number of the literal that the text writes. -/
theorem exists_writes_of_bigint {format : NumberFormat} {t : Text} {n : Int}
    {invalid : Option InvalidLiteral} (inferred : infer format t = .ok (.bigint n, invalid))
    : ∃ l normalized, format.Writes l t normalized ∧ l.value = n := by
  have outcome := infer_outcome format t
  rw [inferred] at outcome
  cases outcome with
  | literal writes outcome =>
      cases outcome with
      | number found _ first =>
          obtain ⟨kind, _, fits⟩ := List.exists_of_findSome?_eq_some first
          have value := Literal.value_of_toDecimal found
          refine ⟨_, _, writes, value.symm.trans ?_⟩
          cases kind with
          | integer type =>
              obtain ⟨_, _, _, other⟩ := fit?_integer_eq_some_iff.mp fits
              cases other
          | bigint =>
              obtain ⟨_, number, _, same⟩ := fit?_bigint_eq_some_iff.mp fits
              cases same
              exact number
          | decimal => simp [fit?] at fits
          | double => simp [fit?] at fits

end Inference

open Inference

/-- A big integer is rendered as a text that is read as the same number in the invariant format exactly
if it is within the bound of the fixed decimals or some double is that number. Any other is read as the
nearest double, and as a text that is reported if the nearest number is too large for a double.
Witness: the text has no width, so that the first of the usual kinds with room for the number is taken.
-/
theorem infer_rendered_bigint {format : NumberFormat} {t s : Text} {n : Int}
    {invalid : Option InvalidLiteral} (inferred : infer format t = .ok (.bigint n, invalid))
    (rendered : (TypedValue.bigint n).render? = some s)
    : (∃ l normalized, format.Writes l t normalized ∧ l.value = n)
      ∧ ∃ w report, infer .invariant s = .ok (w, report) ∧ w.RereadsInteger s n report
        ∧ (w.number? = some (n : ℚ) ↔ |(n : ℚ)| ≤ fixedBound ∨ Double.IsValue n) := by
  refine ⟨exists_writes_of_bigint inferred, ?_⟩
  have written : s = Text.ofInt n := by
    have render : (TypedValue.bigint n).render? = Value.renderInt? n := rfl
    rw [render, Value.renderInt?] at rendered
    split at rendered
    · exact (Option.some.inj rendered).symm
    · cases rendered
  subst written
  obtain ⟨w, report, reread, rereads⟩ := exists_rereadsInteger n
  exact ⟨w, report, reread, rereads, rereads.number?_eq_iff⟩

/-- The power of two with the exponent a hundred is read back as a double. -/
theorem infer_rendered_bigint_powerOfTwo
    : let t := "1267650600228229401496703205376n".toList
      let s := "1267650600228229401496703205376".toList
      infer .invariant t = .ok (.bigint (2 ^ 100), none)
        ∧ (TypedValue.bigint (2 ^ 100)).render? = some s
        ∧ ∃ w report, infer .invariant s = .ok (w, report)
          ∧ w.number? = some ((2 ^ 100 : Int) : ℚ) := by
  intro t s
  have inferred : infer .invariant t = .ok (.bigint (2 ^ 100), none) := by decide +kernel
  have rendered : (TypedValue.bigint (2 ^ 100)).render? = some s := by decide +kernel
  obtain ⟨_, w, report, reread, _, same⟩ := infer_rendered_bigint inferred rendered
  have value : Double.IsValue ((2 ^ 100 : Int) : ℚ) :=
    ⟨1, 100, by norm_num, by norm_num, by norm_num, by norm_num⟩
  exact ⟨inferred, rendered, w, report, reread, same.mpr (.inr value)⟩

/-- The next integer but one after the greatest fixed decimal is read back as its neighbour: it has more
bits than a double.
-/
theorem infer_rendered_bigint_loses_bit
    : ¬∀ (t s : Text) (n : Int) (invalid : Option InvalidLiteral),
        infer .invariant t = .ok (.bigint n, invalid) → (TypedValue.bigint n).render? = some s →
        ∃ w report, infer .invariant s = .ok (w, report) ∧ w.number? = some (n : ℚ) := by
  intro preserved
  let neighbour : Double := .finite false (2 ^ 52) 44
  have reread : infer .invariant "79228162514264337593543950337".toList
      = .ok (.double neighbour, none) := by decide +kernel
  obtain ⟨w, report, same, number⟩ :=
    preserved "79228162514264337593543950337n".toList "79228162514264337593543950337".toList
      (2 ^ 96 + 1) none (by decide +kernel) (by decide +kernel)
  cases reread.symm.trans same
  rw [TypedValue.number?, Double.value?_finite false (2 ^ 52) (by norm_num)] at number
  norm_num at number

end LiveIni
