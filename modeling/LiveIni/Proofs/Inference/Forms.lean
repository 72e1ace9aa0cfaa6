import LiveIni.Proofs.Inference.RenderedValues
import LiveIni.Proofs.Literal.Places
import LiveIni.Proofs.Number.DoubleForms

/-!
The forms of inferred values. Inferred values that are equal have one form, and with that one text,
unless they are decimals: these keep the zeros at the end of the literal, and equal ones have the same
text exactly if they have as many places after the point.
-/

namespace LiveIni

open Number

namespace TypedValue

/-- A decimal is no zero with a sign, and a double is no zero at all and has the form that all doubles
have.
-/
def IsRegular : TypedValue → Prop
  | decimal d => d.IsPlain
  | double x => x.IsNormal ∧ x.isZero = false
  | _ => True

/-- The number of places after the point, if the value is a decimal. -/
def places : TypedValue → Nat
  | decimal d => d.places
  | _ => 0

variable {v w : TypedValue}

/-- Regular values that are equal are the same value, or decimals of the same number. -/
theorem IsRegular.cases_of_same (regular : v.IsRegular) (regular' : w.IsRegular)
    (same : v.same w = true)
    : v = w ∨ ∃ a b, v = decimal a ∧ w = decimal b ∧ a.value = b.value := by
  unfold TypedValue.same at same
  split at same
  · next a b =>
      exact .inr ⟨a, b, rfl, rfl, (a.compare_eq_eq_iff b).mp (of_decide_eq_true same)⟩
  · next x y =>
      have equal := regular.1.eq_of_compare? regular'.1 regular.2 (of_decide_eq_true same)
      exact .inl (congrArg double equal)
  · exact .inl (of_decide_eq_true same)

/-- Regular values that are equal are written in the same way, or not at all, exactly if they have as
many places after the point.
-/
theorem IsRegular.render?_eq_iff (regular : v.IsRegular) (regular' : w.IsRegular)
    (same : v.same w = true)
    : v.render? = w.render? ↔ v.places = w.places := by
  rcases regular.cases_of_same regular' same with rfl | ⟨a, b, rfl, rfl, number⟩
  · exact ⟨fun _ => rfl, fun _ => rfl⟩
  · have texts := Decimal.positional_eq_iff regular regular' number
    exact Option.some_inj.trans texts

end TypedValue

/-- No literal comes to a zero with a sign. -/
theorem Literal.isPlain_of_toDecimal {l : Literal} {d : Decimal} (found : l.toDecimal = .ok d)
    : d.IsPlain := by
  unfold toDecimal at found
  cases sized : Magnitude.toDecimal l.magnitude with
  | error fault =>
      rw [sized] at found
      cases found
  | ok magnitude =>
      rw [sized] at found
      cases found
      intro zero
      simp_all

namespace Inference

/-- A zero is fitted into the decimals, so that it is never tried as a double. -/
theorem toFixed?_of_zero {d : Decimal} (zero : d.coefficient = 0) : toFixed? d ≠ none := by
  have fixed : toFixed? ⟨false, 0, 0⟩ = some ⟨false, 0, 0⟩ := by decide
  have same : d.value = Decimal.value ⟨false, 0, 0⟩ := by
    rw [d.value_eq_zero_iff.mpr zero, (Decimal.value_eq_zero_iff _).mpr rfl]
  obtain ⟨r, found, _⟩ := exists_toFixed? fixed same
  rw [found]
  exact nofun

theorem isPlain_of_toFixed? {d r : Decimal} (plain : d.IsPlain) (found : toFixed? d = some r)
    : r.IsPlain := by
  obtain ⟨_, _, zero, rfl⟩ := toFixed?_eq_some_iff.mp found
  intro none
  rw [Decimal.negative_roundTo, Decimal.negative_roundDigits]
  exact plain (zero none)

/-- A double for a number that is not zero is not zero, and has the form of all doubles. -/
theorem isRegular_of_toDouble? {d : Decimal} {x : Double} (nonzero : d.coefficient ≠ 0)
    (found : toDouble? d = some x)
    : (TypedValue.double x).IsRegular := by
  unfold toDouble? at found
  dsimp only at found
  split at found
  · next kept =>
      cases found
      refine ⟨Double.ofDecimal_isNormal d, ?_⟩
      have some : d.isZero = false := decide_eq_false nonzero
      simpa [some] using (Bool.and_eq_true_iff.mp kept).2
  · cases found

/-- Decimals are tried before doubles. -/
theorem decimal_mem_of_kinds {l : Literal} {before after : List NumberKind}
    (kinds : l.kinds = before ++ .double :: after)
    : .decimal ∈ before := by
  unfold Literal.kinds at kinds
  split at kinds
  · unfold candidates at kinds
    split at kinds
    · rcases before with _ | ⟨_, _ | ⟨_, _ | ⟨_, _⟩⟩⟩ <;> simp_all
    · rcases before with _ | ⟨_, _⟩ <;> simp_all
  · next width _ => cases width <;> rcases before with _ | ⟨_, _⟩ <;> simp_all [Width.kind?]

/-- The first kind that has room for a number makes a regular value of it. -/
theorem isRegular_of_kinds {l : Literal} {d : Decimal} {v : TypedValue} (plain : d.IsPlain)
    (first : l.kinds.findSome? (fit? d) = some v)
    : v.IsRegular := by
  obtain ⟨before, kind, after, kinds, fits, misfits⟩ := List.findSome?_eq_some_iff.mp first
  cases kind with
  | integer type =>
      obtain ⟨n, _, _, rfl⟩ := fit?_integer_eq_some_iff.mp fits
      trivial
  | bigint =>
      obtain ⟨n, _, rfl⟩ := Option.map_eq_some_iff.mp fits
      trivial
  | decimal =>
      obtain ⟨r, found, rfl⟩ := Option.map_eq_some_iff.mp fits
      exact isPlain_of_toFixed? plain found
  | double =>
      obtain ⟨x, found, rfl⟩ := Option.map_eq_some_iff.mp fits
      refine isRegular_of_toDouble? (fun zero => ?_) found
      exact toFixed?_of_zero zero
        (Option.map_eq_none_iff.mp (misfits .decimal (decimal_mem_of_kinds kinds)))

end Inference

/-- Inference makes regular values only. -/
theorem isRegular_of_infer {format : NumberFormat} {t : Text} {v : TypedValue}
    {invalid : Option InvalidLiteral} (inferred : infer format t = .ok (v, invalid))
    : v.IsRegular := by
  have outcome := infer_outcome format t
  rw [inferred] at outcome
  cases outcome with
  | truth => trivial
  | text => trivial
  | literal _ outcome =>
      cases outcome with
      | number decimal _ first =>
          exact Inference.isRegular_of_kinds (Literal.isPlain_of_toDecimal decimal) first
      | unfit => trivial
      | farExponent => trivial

end LiveIni
