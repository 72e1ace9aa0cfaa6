/-!
Powers of two and of ten, the units in which doubles and decimals are measured.
-/

namespace LiveIni.Number

def twoTo (n : Nat) : Nat := Nat.pow 2 n

def tenTo (n : Nat) : Nat := Nat.pow 10 n

theorem twoTo_succ (n : Nat) : twoTo (n + 1) = twoTo n * 2 := rfl

theorem tenTo_succ (n : Nat) : tenTo (n + 1) = tenTo n * 10 := rfl

theorem tenTo_pos (n : Nat) : 0 < tenTo n :=
  Nat.pow_pos (by decide)

theorem tenTo_add (m n : Nat) : tenTo (m + n) = tenTo m * tenTo n :=
  Nat.pow_add ..

theorem tenTo_le_tenTo {m n : Nat}
    (h : m ≤ n)
    : tenTo m ≤ tenTo n :=
  Nat.pow_le_pow_right (by decide) h

theorem twoTo_le_tenTo (n : Nat) : twoTo n ≤ tenTo n :=
  Nat.pow_le_pow_left (by decide) n

/-- A number has no more binary digits than its logarithm says. -/
theorem lt_twoTo_log2 (n : Nat) : n < twoTo (Nat.log2 n + 1) :=
  Nat.lt_log2_self

end LiveIni.Number
