import LiveIni.Proofs.Number.Double

/-!
The form of doubles. A finite double has 53 bits, or its last bit is the last one that any double has,
so that two doubles which compare as equal have the same form, unless they are zeros.
-/

namespace LiveIni.Number.Double

/-- A finite double has 53 bits, or as few as it must to end at the last bit of all. -/
def IsNormal : Double → Prop
  | finite _ significand exponent =>
    significand < 2 ^ 53 ∧ -1074 ≤ exponent ∧ (-1074 < exponent → 2 ^ 52 ≤ significand)
  | _ => True

theorem zero_isNormal (negative : Bool) : (zero negative).IsNormal :=
  ⟨by decide, Int.le_refl _, fun above => absurd above (Int.lt_irrefl _)⟩

theorem ofRatio_isNormal (negative : Bool) (num : Nat) {den : Nat} (positive : 0 < den)
    : (ofRatio negative num den).IsNormal := by
  by_cases none : num = 0
  · rw [ofRatio, if_pos none]
    exact zero_isNormal negative
  · obtain ⟨significand, exponent, same, _, few, unit, full⟩ :=
      exists_ofRatio_eq negative none positive
    rw [same]
    split
    · trivial
    · exact ⟨few, unit, full⟩

theorem ofDecimal_isNormal (d : Decimal) : (ofDecimal d).IsNormal := by
  unfold ofDecimal
  split
  · exact zero_isNormal _
  · split
    · trivial
    · exact ofRatio_isNormal _ _ (tenTo_pos _)

/-- The magnitude of a finite double, with its sign. -/
theorem scaled_finite (negative : Bool) (significand : Nat) (exponent : ℤ)
    : (finite negative significand exponent).scaled
      = if negative then -((significand * 2 ^ (exponent + 1074).toNat : ℕ) : ℤ)
        else ((significand * 2 ^ (exponent + 1074).toNat : ℕ) : ℤ) := by
  have power : twoTo (exponent + 1074).toNat = 2 ^ (exponent + 1074).toNat := rfl
  rw [scaled, power]
  push_cast
  rfl

/-- With 53 bits, the last bit of a number is where the number says. -/
theorem exponent_le_of_magnitudes {s t : Nat} {e f : ℤ} (few : s < 2 ^ 53) (unit : -1074 ≤ e)
    (full : -1074 < f → 2 ^ 52 ≤ t)
    (same : s * 2 ^ (e + 1074).toNat = t * 2 ^ (f + 1074).toNat)
    : f ≤ e := by
  by_contra finer
  obtain ⟨k, higher⟩ := Int.le.dest (Int.lt_of_not_ge finer)
  have places : (f + 1074).toNat = k + 1 + (e + 1074).toNat := by omega
  have many := full (by omega)
  have doubled : s = t * 2 ^ (k + 1) := by
    refine Nat.eq_of_mul_eq_mul_right (Nat.two_pow_pos (e + 1074).toNat) ?_
    rw [same, places, Nat.pow_add, Nat.mul_assoc]
  have twice : 2 ^ 52 * 2 ≤ t * 2 ^ (k + 1) :=
    Nat.mul_le_mul many (Nat.le_self_pow (Nat.succ_ne_zero k) 2)
  omega

/-- Equal doubles have the same form, unless they are zeros. -/
theorem IsNormal.eq_of_compare? {x y : Double} (normal : x.IsNormal) (normal' : y.IsNormal)
    (nonzero : x.isZero = false) (equal : x.compare? y = some .eq)
    : x = y := by
  cases x with
  | nan => cases y <;> cases equal
  | infinite m =>
      cases y with
      | nan => cases equal
      | finite n t f => cases m <;> cases equal
      | infinite n => cases m <;> cases n <;> first | rfl | cases equal
  | finite m s e =>
      cases y with
      | nan => cases equal
      | infinite n => cases n <;> cases equal
      | finite n t f =>
          obtain ⟨few, unit, full⟩ := normal
          obtain ⟨few', unit', full'⟩ := normal'
          have some : s ≠ 0 := of_decide_eq_false nonzero
          have units : (finite m s e).scaled = (finite n t f).scaled :=
            Std.LawfulEqCmp.eq_of_compare (Option.some.inj equal)
          rw [scaled_finite, scaled_finite] at units
          have positive : 0 < s * 2 ^ (e + 1074).toNat :=
            Nat.mul_pos (Nat.pos_of_ne_zero some) (Nat.two_pow_pos _)
          obtain ⟨sign, same⟩ : m = n
              ∧ s * 2 ^ (e + 1074).toNat = t * 2 ^ (f + 1074).toNat := by
            generalize s * 2 ^ (e + 1074).toNat = a at units positive
            generalize t * 2 ^ (f + 1074).toNat = b at units
            cases m <;> cases n <;> simp at units ⊢ <;> omega
          have exponents : e = f :=
            Int.le_antisymm (exponent_le_of_magnitudes few' unit' full same.symm)
              (exponent_le_of_magnitudes few unit full' same)
          rw [exponents] at same
          rw [sign, exponents, Nat.eq_of_mul_eq_mul_right (Nat.two_pow_pos _) same]

end LiveIni.Number.Double
