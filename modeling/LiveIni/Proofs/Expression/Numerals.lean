import LiveIni.Expression.Numeral
import LiveIni.Proofs.Literal.Characters

/-!
Numbers in expressions take nothing from a text but letters, digits, underscores, points and signs.
-/

namespace LiveIni.Numeral

/-- The character can stand in a number. -/
def IsPart (c : Char) : Prop :=
  Literal.IsPart c ∨ c = '_'

/-- What is left of a text after characters that can stand in a number. -/
def Leaves (t rest : Text) : Prop :=
  ∃ used, t = used ++ rest ∧ ∀ c ∈ used, IsPart c

namespace Leaves

variable {t rest more : Text} {c : Char}

theorem all (t : Text) : Leaves t t :=
  ⟨[], rfl, nofun⟩

theorem cons (part : IsPart c) (leaves : Leaves t rest) : Leaves (c :: t) rest := by
  obtain ⟨used, rfl, parts⟩ := leaves
  exact ⟨c :: used, rfl, List.forall_mem_cons.mpr ⟨part, parts⟩⟩

theorem trans (leaves : Leaves t rest) (onwards : Leaves rest more) : Leaves t more := by
  obtain ⟨used, rfl, parts⟩ := leaves
  obtain ⟨further, rfl, furtherParts⟩ := onwards
  exact ⟨used ++ further, (List.append_assoc ..).symm,
    List.forall_mem_append.mpr ⟨parts, furtherParts⟩⟩

end Leaves

variable {t rest digits : Text} {c : Char} {constant : Constant}

theorem isPart_of_isDigit (digit : c.isDigit = true) : IsPart c :=
  .inl (Literal.isPart_of_isDigit digit)

theorem isPart_of_mark {lower : Char} (folded : c.toLower = lower) (letter : lower.isAlpha = true)
    : IsPart c :=
  .inl (Literal.isPart_of_toLower (folded ▸ letter))

-----------------------------------------------------------------------------------------
-- Digits and powers of ten
-----------------------------------------------------------------------------------------

/-- By induction along the reading of the digits. -/
theorem leaves_of_digits? {isDigit : Char → Bool} (parts : ∀ c, isDigit c = true → IsPart c)
    (read : digits? isDigit t = some (digits, rest))
    : Leaves t rest := by
  induction t using digits?.induct isDigit generalizing digits with
  | case1 =>
      cases read
      exact .all []
  | case2 d more digit ih =>
      rw [digits?, if_pos digit] at read
      obtain ⟨_, found, same⟩ := Option.map_eq_some_iff.mp read
      cases same
      exact .cons (.inr rfl) (.cons (parts d digit) (ih found))
  | case3 d more noDigit =>
      rw [digits?, if_neg noDigit] at read
      cases read
  | case4 more last =>
      rw [digits?, if_pos rfl] at read
      · cases read
      · exact last
  | case5 c more _ other digit ih =>
      rw [digits?, if_neg other, if_pos digit] at read
      · obtain ⟨_, found, same⟩ := Option.map_eq_some_iff.mp read
        cases same
        exact .cons (parts c digit) (ih found)
      · exact fun d rest isMark => absurd isMark other
  | case6 c more _ other noDigit =>
      rw [digits?, if_neg other, if_neg noDigit] at read
      · cases read
        exact .all _
      · exact fun d rest isMark => absurd isMark other

/-- What is made of digits does not change what is left after them. -/
theorem leaves_of_map_digits? {α : Type} {a : α} {f : Text × Text → α × Text}
    (read : (digits? Char.isDigit t).map f = some (a, rest))
    (keeps : ∀ found, (f found).2 = found.2)
    : Leaves t rest := by
  obtain ⟨⟨digits, after⟩, readDigits, same⟩ := Option.map_eq_some_iff.mp read
  have kept := keeps (digits, after)
  rw [same] at kept
  obtain rfl : rest = after := kept
  exact leaves_of_digits? (fun _ => isPart_of_isDigit) readDigits

theorem leaves_of_exponent? {exponent : Option Int} (read : exponent? t = some (exponent, rest))
    : Leaves t rest := by
  have power {e : Char} (isE : e.toLower = 'e') : IsPart e := isPart_of_mark isE rfl
  have sign {c : Char} (member : c ∈ ['.', '-', '+']) : IsPart c := .inl (.inr member)
  unfold exponent? at read
  split at read
  · split at read
    · next isE =>
        split at read
        · exact .cons (power isE)
            (.cons (sign (by decide)) (leaves_of_map_digits? read fun _ => rfl))
        · cases read
    · cases read
      exact .all _
  · split at read
    · next isE =>
        split at read
        · exact .cons (power isE)
            (.cons (sign (by decide)) (leaves_of_map_digits? read fun _ => rfl))
        · cases read
    · cases read
      exact .all _
  · split at read
    · next isPower => exact .cons (power isPower.1) (leaves_of_map_digits? read fun _ => rfl)
    · cases read
      exact .all _
  · cases read
    exact .all _

-----------------------------------------------------------------------------------------
-- Numbers
-----------------------------------------------------------------------------------------

theorem leaves_of_decimal? (read : decimal? t = some (constant, rest)) : Leaves t rest := by
  obtain ⟨⟨whole, afterWhole⟩, readWhole, read⟩ := Option.bind_eq_some_iff.mp read
  refine (leaves_of_digits? (fun _ => isPart_of_isDigit) readWhole).trans ?_
  dsimp -zeta only at read
  extract_lets finish at read
  have leaves {fraction : Option Text} {after : Text}
      (read : finish (fraction, after) = some (constant, rest))
      : Leaves after rest := by
    obtain ⟨⟨exponent, afterPower⟩, readPower, read⟩ := Option.bind_eq_some_iff.mp read
    refine (leaves_of_exponent? readPower).trans ?_
    have imaginary {j : Char} (isJ : j.toLower = 'j') : IsPart j := isPart_of_mark isJ rfl
    dsimp only at read
    split at read
    · cases read
      exact .cons (imaginary rfl) (.all _)
    · cases read
      exact .cons (imaginary rfl) (.all _)
    · split at read
      · obtain ⟨_, _, same⟩ := Option.map_eq_some_iff.mp read
        cases same
        exact .all _
      · cases read
        exact .all _
  clear_value finish
  have point : IsPart '.' := .inl (.inr (by decide))
  split at read
  · split at read
    · obtain ⟨⟨fraction, after⟩, readFraction, read⟩ := Option.bind_eq_some_iff.mp read
      exact .cons point ((leaves_of_map_digits? readFraction fun _ => rfl).trans (leaves read))
    · exact .cons point (leaves read)
  · exact .cons point (leaves read)
  · exact leaves read

theorem leaves_of_based? {base : Nat} {isDigit : Char → Bool}
    (parts : ∀ c, isDigit c = true → IsPart c)
    (read : based? base isDigit t = some (constant, rest))
    : Leaves t rest := by
  obtain ⟨⟨digits, afterDigits⟩, readDigits, read⟩ := Option.bind_eq_some_iff.mp read
  dsimp only at read
  split at read
  · cases read
  · cases read
    exact leaves_of_digits? parts readDigits

/-- A number takes only characters that can stand in one. -/
theorem leaves_of_read? (read : read? t = some (constant, rest)) : Leaves t rest := by
  unfold read? at read
  extract_lets finish at read
  have leaves {before : Text} {found : Option (Constant × Text)}
      (reads : ∀ constant after, found = some (constant, after) → Leaves before after)
      (read : (found.bind finish) = some (constant, rest))
      : Leaves before rest := by
    obtain ⟨⟨number, after⟩, readNumber, read⟩ := Option.bind_eq_some_iff.mp read
    dsimp only [finish] at read
    split at read
    · cases read
      exact reads constant rest readNumber
    · cases read
  clear_value finish
  have decimal (t : Text) (constant : Constant) (after : Text)
      (read : decimal? t = some (constant, after)) : Leaves t after := leaves_of_decimal? read
  have zero : IsPart '0' := isPart_of_isDigit rfl
  split at read
  · next mark more =>
      split at read
      · next isX =>
          refine .cons zero (.cons (isPart_of_mark isX rfl) (leaves ?_ read))
          exact fun _ _ => leaves_of_based? fun _ digit => .inl (Literal.isPart_of_isHexDigit digit)
      · next isO =>
          refine .cons zero (.cons (isPart_of_mark isO rfl) (leaves ?_ read))
          refine fun _ _ => leaves_of_based? fun c digit => isPart_of_isDigit ?_
          simp only [Bool.and_eq_true, decide_eq_true_eq] at digit
          simp only [Char.isDigit, Bool.and_eq_true, decide_eq_true_eq]
          exact ⟨digit.1, UInt32.le_trans digit.2 (by decide)⟩
      · next isB =>
          refine .cons zero (.cons (isPart_of_mark isB rfl) (leaves ?_ read))
          refine fun _ _ => leaves_of_based? fun c digit => ?_
          simp only [Bool.or_eq_true, decide_eq_true_eq] at digit
          rcases digit with rfl | rfl <;> exact isPart_of_isDigit rfl
      · exact leaves (decimal _) read
  · exact leaves (decimal _) read

end LiveIni.Numeral
