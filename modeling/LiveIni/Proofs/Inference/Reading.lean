import LiveIni.Proofs.Inference.Fitting
import LiveIni.Proofs.Literal.Spelling
import LiveIni.Proofs.Literal.Value
import LiveIni.Proofs.Number.Double

/-!
How a text is read as a number in any number format. Either it writes no literal and is no number, or
the literal that it writes decides what it is read as.
-/

namespace LiveIni

open Number

/-- The number that a typed value is, if it is one. -/
def TypedValue.number? : TypedValue → Option ℚ
  | string _ => none
  | boolean _ => none
  | integer _ n => some n
  | bigint n => some n
  | decimal d => some d.value
  | double x => x.value?

/-- A text writes at most one literal in a number format. -/
theorem NumberFormat.Writes.unique {format : NumberFormat} {l m : Literal}
    {t s u : Text} (writes : format.Writes l t s) (other : format.Writes m t u)
    : l = m ∧ s = u := by
  cases writes.normal.symm.trans other.normal
  have plain := Literal.plainLetters_plain s
  have read := (Literal.read?_eq_some_iff plain).mpr writes.plain
  rw [(Literal.read?_eq_some_iff plain).mpr other.plain] at read
  exact ⟨(Option.some.inj read).symm, rfl⟩

namespace Inference

/-- A text that writes no literal in the number format is not numeric. One that writes a literal is
read as that literal is, up to its width, which is not known if the long s stands in the text.
-/
theorem readNumber_cases (format : NumberFormat) (t : Text)
    : readNumber format t = .ok .notNumeric ∧ (∀ l normalized, ¬format.Writes l t normalized)
      ∨ ∃ l normalized width, format.Writes l t normalized
        ∧ Literal.WidthIn normalized l.width width
        ∧ readNumber format t = readLiteral (Text.strip t) normalized { l with width } := by
  unfold readNumber
  dsimp only
  cases normal : format.normalize? (Text.strip t) with
  | none =>
      refine .inl ⟨rfl, fun l normalized writes => ?_⟩
      rw [writes.normal] at normal
      cases normal
  | some normalized =>
      dsimp only
      obtain ⟨unread, noLiteral⟩ | ⟨l, width, plain, read, known⟩ :=
        Literal.read?_cases normalized
      · rw [unread]
        refine .inl ⟨rfl, fun l other writes => ?_⟩
        cases normal.symm.trans writes.normal
        exact noLiteral l writes.plain
      · rw [read]
        exact .inr ⟨l, normalized, width, ⟨normal, plain⟩, known, rfl⟩

/-- What a text is read as a number for is the decimal of the literal that it writes, which has the
literal's exact value, fitted into a kind.
-/
theorem exists_fit?_of_readNumber {format : NumberFormat} {t : Text} {v : TypedValue}
    (read : readNumber format t = .ok (.number v))
    : ∃ l normalized d kind, format.Writes l t normalized ∧ d.value = l.value
        ∧ fit? d kind = some v := by
  obtain ⟨notNumeric, _⟩ | ⟨l, normalized, width, writes, _, same⟩ := readNumber_cases format t
  · rw [notNumeric] at read
    cases read
  · rw [same] at read
    obtain ⟨_, invalid⟩ | ⟨d, kind, _, found, fits, number⟩ := readLiteral_cases read
    · cases invalid
    · cases number
      exact ⟨l, normalized, d, kind, writes, Literal.value_of_toDecimal found, fits⟩

end Inference

end LiveIni
