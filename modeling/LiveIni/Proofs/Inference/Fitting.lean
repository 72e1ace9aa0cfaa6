import LiveIni.Inference

/-!
Where inferred values come from. A text is a truth value, or it stays itself, or it is written
like a literal whose decimal was fitted into a kind.
-/

namespace LiveIni

open Number

namespace Inference

/-- A decimal is never fitted into a text. -/
theorem fit?_ne_string {d : Decimal} {kind : NumberKind} {t : Text}
    : fit? d kind ≠ some (.string t) := by
  cases kind with
  | integer type =>
      intro fits
      obtain ⟨n, _, held⟩ := Option.bind_eq_some_iff.mp fits
      split at held <;> cases held
  | bigint => simp [fit?]
  | decimal => simp [fit?]
  | double => simp [fit?]

theorem readAs_cases (source : Text) (d : Decimal) (kind : NumberKind)
    : (∃ invalid, readAs source d kind = .invalid invalid)
      ∨ ∃ v, fit? d kind = some v ∧ readAs source d kind = .number v := by
  unfold readAs
  cases fits : fit? d kind with
  | none => exact .inl ⟨_, rfl⟩
  | some v => exact .inr ⟨v, rfl, rfl⟩

/-- What a literal is read as: it is invalid, or its decimal is fitted into some kind. -/
theorem readLiteral_cases {source normalized : Text} {l : Literal} {r : NumberReading}
    (read : readLiteral source normalized l = .ok r)
    : (∃ invalid, r = .invalid invalid)
      ∨ ∃ d kind v, l.toDecimal = .ok d ∧ fit? d kind = some v ∧ r = .number v := by
  have fitted {d : Decimal} {kind : NumberKind} (found : l.toDecimal = .ok d)
      (same : (.ok (readAs source d kind) : Except InferenceFault NumberReading) = .ok r)
      : (∃ invalid, r = .invalid invalid)
        ∨ ∃ d kind v, l.toDecimal = .ok d ∧ fit? d kind = some v ∧ r = .number v := by
    cases same
    rcases readAs_cases source d kind with invalid | ⟨v, fits, same⟩
    · exact .inl invalid
    · exact .inr ⟨d, kind, v, found, fits, same⟩
  unfold readLiteral at read
  split at read
  · cases read
  · cases read
    exact .inl ⟨_, rfl⟩
  · next d decimal =>
      split at read
      · cases read
      · exact fitted decimal read
      · exact fitted decimal read
      · exact fitted decimal read
      · split at read
        · next found =>
            cases read
            obtain ⟨kind, _, fits⟩ := List.exists_of_findSome?_eq_some found
            exact .inr ⟨d, kind, _, decimal, fits, rfl⟩
        · cases read
          exact .inl ⟨_, rfl⟩

/-- A number that a text is read as is a decimal, fitted into some kind. -/
theorem fit?_of_readNumber {format : NumberFormat} {t : Text} {v : TypedValue}
    (read : readNumber format t = .ok (.number v))
    : ∃ d kind, fit? d kind = some v := by
  unfold readNumber at read
  dsimp only at read
  split at read
  · cases read
  · split at read
    · cases read
    · obtain ⟨_, same⟩ | ⟨d, kind, _, _, fits, same⟩ := readLiteral_cases read
      · cases same
      · cases same
        exact ⟨d, kind, fits⟩

end Inference

/-- What a text is inferred to be: a truth value, the text itself, or a fitted decimal. -/
theorem infer_cases {format : NumberFormat} {t : Text} {v : TypedValue}
    {invalid : Option InvalidLiteral} (inferred : infer format t = .ok (v, invalid))
    : (∃ b, v = .boolean b) ∨ v = .string t ∨ ∃ d kind, Inference.fit? d kind = some v := by
  unfold infer at inferred
  split at inferred
  · next b _ =>
      cases inferred
      exact .inl ⟨b, rfl⟩
  · cases read : Inference.readNumber format t with
    | error fault =>
        rw [read] at inferred
        cases inferred
    | ok reading =>
        rw [read] at inferred
        cases reading with
        | notNumeric =>
            cases inferred
            exact .inr (.inl rfl)
        | invalid l =>
            cases inferred
            exact .inr (.inl rfl)
        | number found =>
            cases inferred
            exact .inr (.inr (Inference.fit?_of_readNumber read))

end LiveIni
