import LiveIni.Proofs.Substitution.Lexemes
import LiveIni.Proofs.Value.Operators

/-!
The constants that the words of an expression stand for: integers, doubles and imaginary numbers,
but no decimals.
-/

namespace LiveIni

/-- The constant is no decimal. -/
def Constant.NoDecimal (c : Constant) : Prop :=
  ∀ v, c = .value v → v.isDecimal = false

/-- The word is no decimal. -/
def Token.NoDecimal (t : Token) : Prop :=
  ∀ c, t = .number c → c.NoDecimal

theorem Token.noDecimal_lineEnd : Token.NoDecimal .lineEnd := by
  rintro c ⟨⟩

theorem Token.NoDecimal.spelled {t : Token} (plain : t.NoDecimal) (names : Text → Option Char)
    : (t.spelled names).NoDecimal := by
  cases t with
  | quotation q => exact nofun
  | _ => exact plain

namespace Constant.NoDecimal

theorem refused (shown : Text) : NoDecimal (.refused shown) :=
  nofun

theorem ofValue {v : Value} (plain : v.isDecimal = false) : NoDecimal (.value v) := by
  rintro w ⟨⟩
  exact plain

end Constant.NoDecimal

-----------------------------------------------------------------------------------------
-- Numerals
-----------------------------------------------------------------------------------------

namespace Numeral

variable {t rest : Text} {constant : Constant}

theorem noDecimal_whole? {digits : Text} (read : whole? digits = some constant)
    : constant.NoDecimal := by
  unfold whole? at read
  split at read
  · cases read
    exact .ofValue rfl
  · split at read
    · cases read
    · cases read
      exact .ofValue rfl

theorem noDecimal_based? {base : Nat} {isDigit : Char → Bool}
    (read : based? base isDigit t = some (constant, rest))
    : constant.NoDecimal := by
  obtain ⟨_, _, read⟩ := Option.bind_eq_some_iff.mp read
  dsimp only at read
  split at read
  · cases read
  · cases read
    exact .ofValue rfl

/-- A number with a point or a power is a double, one without is an integer. -/
theorem noDecimal_decimal? (read : decimal? t = some (constant, rest)) : constant.NoDecimal := by
  obtain ⟨⟨whole, afterWhole⟩, _, read⟩ := Option.bind_eq_some_iff.mp read
  dsimp -zeta only at read
  extract_lets finish at read
  have plain {fraction : Option Text × Text} (read : finish fraction = some (constant, rest))
      : constant.NoDecimal := by
    obtain ⟨⟨exponent, afterPower⟩, _, read⟩ := Option.bind_eq_some_iff.mp read
    dsimp only at read
    split at read
    · cases read
      exact .refused _
    · cases read
      exact .refused _
    · split at read
      · obtain ⟨c, isWhole, same⟩ := Option.map_eq_some_iff.mp read
        cases same
        exact noDecimal_whole? isWhole
      · cases read
        exact .ofValue rfl
  clear_value finish
  split at read
  · split at read
    · obtain ⟨_, _, read⟩ := Option.bind_eq_some_iff.mp read
      exact plain read
    · exact plain read
  · exact plain read
  · exact plain read

theorem noDecimal_read? (read : read? t = some (constant, rest)) : constant.NoDecimal := by
  unfold read? at read
  extract_lets finish at read
  have plain {found : Option (Constant × Text)}
      (reads : ∀ c after, found = some (c, after) → c.NoDecimal)
      (read : (found.bind finish) = some (constant, rest))
      : constant.NoDecimal := by
    obtain ⟨⟨number, after⟩, readNumber, read⟩ := Option.bind_eq_some_iff.mp read
    dsimp only [finish] at read
    split at read
    · cases read
      exact reads constant rest readNumber
    · cases read
  clear_value finish
  split at read
  · split at read
    · exact plain (fun _ _ => noDecimal_based?) read
    · exact plain (fun _ _ => noDecimal_based?) read
    · exact plain (fun _ _ => noDecimal_based?) read
    · exact plain (fun _ _ => noDecimal_decimal?) read
  · exact plain (fun _ _ => noDecimal_decimal?) read

end Numeral

-----------------------------------------------------------------------------------------
-- Lexemes and words
-----------------------------------------------------------------------------------------

namespace Lexeme

/-- The lexeme is no word that is a decimal. -/
def NoDecimal (l : Lexeme) : Prop :=
  ∀ t, l = .token t → t.NoDecimal

theorem noDecimal_ofWord (word : Text) : NoDecimal (ofWord word) := by
  unfold ofWord
  rintro t same c rfl
  split at same
  · cases same
  · split at same
    · cases same
    · split at same <;> cases same

/-- Only what begins like a number is read as one. -/
theorem noDecimal_read (c : Char) (rest : Text) : NoDecimal (read c rest).1 := by
  have word (word rest : Text) : NoDecimal (ofWordBefore word rest).1 := by
    obtain ⟨same, _⟩ | malformed | ⟨q, inside, after, quotation, _, _, same⟩ :=
      ofWordBefore_cases word rest
    · rw [same]
      exact noDecimal_ofWord word
    · rw [malformed]
      exact nofun
    · rw [same]
      rintro t ⟨⟩
      exact nofun
  unfold read
  split_ifs
  · exact nofun
  · exact nofun
  · exact nofun
  · exact nofun
  · split <;> exact nofun
  · exact word _ _
  · exact word _ _
  · split
    · next number =>
        rintro t ⟨⟩ constant ⟨⟩
        exact Numeral.noDecimal_read? number
    · exact nofun
  · split
    · rintro t ⟨⟩
      exact nofun
    · exact nofun

/-- The words are those of the lexemes and line ends, by induction on the lexemes. -/
theorem noDecimal_of_tokensWithin {depth : Nat} {lexemes : List Lexeme} {tokens : List Token}
    (plain : ∀ l ∈ lexemes, l.NoDecimal) (found : tokensWithin depth lexemes = some tokens)
    : ∀ t ∈ tokens, t.NoDecimal := by
  induction lexemes generalizing depth tokens with
  | nil =>
      cases found
      simp
  | cons l rest ih =>
      obtain ⟨first, others⟩ := List.forall_mem_cons.mp plain
      have token {t : Token} {depth : Nat} (holds : t.NoDecimal)
          (found : (tokensWithin depth rest).map (t :: ·) = some tokens)
          : ∀ t ∈ tokens, t.NoDecimal := by
        obtain ⟨more, onwards, rfl⟩ := Option.map_eq_some_iff.mp found
        exact List.forall_mem_cons.mpr ⟨holds, ih others onwards⟩
      cases l with
      | token t =>
          have holds := first t rfl
          cases t with
          | symbol s =>
              rw [tokensWithin] at found
              split_ifs at found <;> exact token holds found
          | _ => exact token holds found
      | lineEnd =>
          rw [tokensWithin] at found
          split_ifs at found
          · exact token Token.noDecimal_lineEnd found
          · exact ih others found
      | malformed => cases found
      | _ => exact ih others found

/-- By induction on the lexemes. -/
theorem noDecimal_of_tokensFrom {column joined : Nat} {lexemes : List Lexeme} {tokens : List Token}
    (plain : ∀ l ∈ lexemes, l.NoDecimal) (found : tokensFrom column joined lexemes = some tokens)
    : ∀ t ∈ tokens, t.NoDecimal := by
  induction lexemes generalizing column joined with
  | nil =>
      cases found
      simp
  | cons l rest ih =>
      obtain ⟨first, others⟩ := List.forall_mem_cons.mp plain
      cases l with
      | token t =>
          have within : (if (if joined = 0 then column else joined) = 0
              then tokensWithin 0 (.token t :: rest) else none) = some tokens := found
          split_ifs at within
          exact noDecimal_of_tokensWithin plain within
      | malformed =>
          have within : (if (if joined = 0 then column else joined) = 0
              then tokensWithin 0 (.malformed :: rest) else none) = some tokens := found
          split_ifs at within
          cases within
      | _ => exact ih others found

end Lexeme

/-- No word of an expression is a decimal. -/
theorem Lexeme.noDecimal_of_tokens? {t : Text} {tokens : List Token} (cut : tokens? t = some tokens)
    : ∀ token ∈ tokens, token.NoDecimal := by
  refine noDecimal_of_tokensFrom (fun l member => ?_) cut
  obtain ⟨c, rest, rfl⟩ := Text.exists_of_mem_scanFrom _ member
  exact noDecimal_read c rest

end LiveIni
