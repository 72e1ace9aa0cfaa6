/-!
Rounding a quotient of natural numbers to the nearest natural number. A quotient halfway
between two neighbours goes to the even one.
-/

namespace LiveIni.Number

/-- `num / den` rounded to the nearest natural number, a half to the even neighbour. -/
def divHalfEven (num den : Nat) : Nat :=
  let quotient := num / den
  let twice := 2 * (num % den)
  if twice > den ∨ (twice = den ∧ quotient % 2 = 1) then quotient + 1 else quotient

/-- The rounded quotient is off by at most half a unit. -/
theorem divHalfEven_within {num den : Nat}
    (h : 0 < den)
    : 2 * num ≤ (2 * divHalfEven num den + 1) * den ∧
      2 * (divHalfEven num den * den) ≤ 2 * num + den := by
  have split := Nat.div_add_mod num den
  have small := Nat.mod_lt num h
  have comm : den * (num / den) = num / den * den := Nat.mul_comm ..
  unfold divHalfEven
  dsimp only
  split
  · rw [Nat.add_mul, Nat.mul_add, Nat.add_mul, Nat.add_mul, Nat.mul_assoc]
    omega
  · rw [Nat.add_mul, Nat.mul_assoc]
    omega

end LiveIni.Number
