import LiveIni.Proofs.Inference.Outcome
import LiveIni.Proofs.Literal.Localized

/-!
Numbers in number formats with one-character separators. A text is read as the literal of the
invariant format is that it respells, and a text that respells none is no number.
-/

namespace LiveIni

open Number

namespace Inference

/-- Both readings come to the same number, or both to a literal with the same fault. The literal is
reported as it is written, so that its text may differ.
-/
inductive ReadAlike
    : Except InferenceFault NumberReading → Except InferenceFault NumberReading → Prop
  | number (v : TypedValue) : ReadAlike (.ok (.number v)) (.ok (.number v))
  | invalid (text other : Text) (fault : LiteralFault)
    : ReadAlike (.ok (.invalid ⟨text, fault⟩)) (.ok (.invalid ⟨other, fault⟩))

/-- A literal is read alike from whatever text it was brought from. -/
theorem readLiteral_alike {l : Literal} {literal : Text} (writes : Literal.Writes l literal)
    (short : ∀ e ∈ l.magnitude.written?, e.digits.length ≤ Value.maxIntegerDigits)
    (source source' normalized normalized' : Text)
    : ReadAlike (readLiteral source normalized l) (readLiteral source' normalized' l) := by
  rcases Literal.toDecimal_cases short with ⟨_, fault⟩ | ⟨_, decimal, found, _⟩
  · simp only [readLiteral, fault]
    exact .invalid normalized normalized' _
  · have known : ∀ width ∈ l.width, ∃ kind, width.kind? = some kind :=
      fun width named => writes.exists_kind named
    rw [readLiteral_of_toDecimal found known, readLiteral_of_toDecimal found known]
    cases l.kinds.findSome? (fit? decimal) with
    | some v => exact .number v
    | none => exact .invalid source source' _

/-- The text has no more digits in a row than can be converted. -/
def ShortRuns (t : Text) : Prop :=
  ∀ run, run <:+: t → (∀ c ∈ run, c.isDigit = true) → run.length ≤ Value.maxIntegerDigits

variable {d : Char} {g : Option Char}

/-- In a format with one-character separators, a text without the letters outside ASCII that count
as ASCII letters is a number, or an invalid one, exactly if it respells a literal, blanks around it
aside. Then it is read like that literal in the invariant format.
Witness: it is brought to the literal that it respells, whose power of ten it contains.
-/
theorem readNumber_localized (marks : NumberFormat.Marks d g) (t : Text)
    (plain : Literal.PlainLetters t) (short : ShortRuns t)
    : let reading := readNumber (.ofCharacters d g) t
      (reading ≠ .ok .notNumeric ↔ ∃ literal, NumberFormat.Respells d g literal (Text.strip t))
        ∧ ∀ literal, NumberFormat.Respells d g literal (Text.strip t) →
          ReadAlike reading (readNumber .invariant literal) := by
  intro reading
  have inText : Text.strip t <:+: t := by
    obtain ⟨lead, trail, whole, _⟩ := Text.exists_eq_strip t
    exact ⟨lead, trail, whole.symm⟩
  have alike (literal : Text) (respelt : NumberFormat.Respells d g literal (Text.strip t))
      : ReadAlike reading (readNumber .invariant literal) := by
    obtain ⟨normal, l, writes⟩ := (NumberFormat.respells_iff marks).mp respelt
    have read := (Literal.read?_eq_some_iff writes.plainLetters).mpr writes
    have localized : reading = readLiteral (Text.strip t) literal l := by
      simp only [reading, readNumber, normal, read]
    have invariant : readNumber .invariant literal = readLiteral literal literal l := by
      rw [readNumber_of_some (by rwa [writes.strip_eq]), writes.strip_eq]
    rw [localized, invariant]
    refine readLiteral_alike writes (fun e written => ?_) _ _ _ _
    obtain ⟨inStrip, decimal⟩ := respelt.power_infix writes e written
    exact short e.digits (inStrip.trans inText) decimal
  refine ⟨⟨fun numeric => ?_, ?_⟩, alike⟩
  · obtain ⟨unread, _⟩ | ⟨l, normalized, _, ⟨normal, writes⟩, _, _⟩ := readNumber_cases _ t
    · exact absurd unread numeric
    · have kept {c : Char} (notPoint : c ≠ '.') (absent : c ∉ t) : c ∉ normalized := fun member =>
        absent (inText.subset ((NumberFormat.mem_normalize? normal member).resolve_right notPoint))
      have plainNormalized : Literal.PlainLetters normalized :=
        ⟨kept (by decide) plain.1, kept (by decide) plain.2⟩
      rw [Literal.plain_of_plainLetters plainNormalized] at writes
      exact ⟨normalized, (NumberFormat.respells_iff marks).mpr ⟨normal, l, writes⟩⟩
  · rintro ⟨literal, respelt⟩ notNumeric
    have impossible := alike literal respelt
    rw [notNumeric] at impossible
    cases impossible

/-- With a comma for the point and points between groups, a number is read like its literal. -/
theorem readNumber_localized_commaAndPoints
    : let t := " -1.234,5e1D ".toList
      NumberFormat.Marks ',' (some '.') ∧ Literal.PlainLetters t ∧ ShortRuns t
        ∧ NumberFormat.Respells ',' (some '.') "-1234.5e1D".toList (Text.strip t)
        ∧ readNumber (.ofCharacters ',' (some '.')) t
          = .ok (.number (.decimal ⟨true, 12345, 0⟩)) := by
  intro t
  have marks : NumberFormat.Marks ',' (some '.') := by
    refine ⟨by decide, ⟨by decide, by decide, by decide, by decide⟩, fun c group => ?_⟩
    cases group
    exact ⟨by decide, by decide, by decide, by decide⟩
  have plain : Literal.PlainLetters t := by constructor <;> decide
  have short : ShortRuns t := fun run inText _ => Nat.le_trans inText.length_le (by decide)
  have read : ∃ l, Literal.read? "-1234.5e1D".toList = some l := ⟨_, rfl⟩
  obtain ⟨l, read⟩ := read
  have writes := (Literal.read?_eq_some_iff (by constructor <;> decide)).mp read
  have respelt : NumberFormat.Respells ',' (some '.') "-1234.5e1D".toList (Text.strip t) :=
    NumberFormat.respells_of_normalize? marks writes (by decide)
  have alike := (readNumber_localized marks t plain short).2 _ respelt
  have invariant : readNumber .invariant "-1234.5e1D".toList
      = .ok (.number (.decimal ⟨true, 12345, 0⟩)) := by
    decide +kernel
  rw [invariant] at alike
  refine ⟨marks, plain, short, respelt, ?_⟩
  generalize readNumber (.ofCharacters ',' (some '.')) t = reading at alike
  cases alike
  rfl

end Inference

end LiveIni
