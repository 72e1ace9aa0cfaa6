import LiveIni.Proofs.Restriction.Trial
import Mathlib.Data.List.Chain

/-!
Texts in which nothing is to be substituted. Whether a backslash or a dollar sign means anything can
be seen from the character after it, and a text without such a pair of neighbours stands for
itself in every scope.
-/

namespace LiveIni

namespace Piece

/-- Whether two neighbouring characters begin an escape, a reference or an expression. -/
def begins (c d : Char) : Bool :=
  (c = '\\' && isEscapable d) || (c = '$' && (d = '(' || d = '\x7b' || isNameStart d))

/-- No neighbouring characters of the text begin anything that is substituted. -/
def Inert (t : Text) : Prop :=
  t.IsChain fun c d => begins c d = false

instance : DecidablePred Inert :=
  fun t => inferInstanceAs (Decidable (t.IsChain fun c d => begins c d = false))

/-- Before a character that begins no name there is no name, not even of an environment variable. -/
theorem nameAt_cons_eq_nil {d : Char} {rest : Text} (plain : isNameStart d = false)
    : nameAt (d :: rest) = [] := by
  have noName : plainName (d :: rest) = [] := by simp [plainName, plain]
  unfold nameAt
  cases marked : environmentMark.isPrefixOf? (d :: rest) with
  | none => exact noName
  | some more =>
      have isMark : d = 'e' := by
        by_cases same : d = 'e'
        · exact same
        · simp [environmentMark, List.isPrefixOf?, Ne.symm same] at marked
      subst isMark
      cases plain

/-- A character that begins nothing with the one after it is a piece of its own. -/
theorem read_eq_literal {total : Nat} {c : Char} {rest : Text}
    (inert : ∀ d ∈ rest.head?, begins c d = false)
    : read total c rest = (literal [c], 0) := by
  cases rest with
  | nil =>
      by_cases backslash : c = '\\'
      · simp [read, backslash]
      · by_cases dollar : c = '$'
        · subst dollar
          rfl
        · simp [read, backslash, dollar]
  | cons d more =>
      have plain := inert d rfl
      by_cases backslash : c = '\\'
      · subst backslash
        have notEscapable : isEscapable d = false := by simpa [begins] using plain
        simp [read, notEscapable]
      · by_cases dollar : c = '$'
        · subst dollar
          obtain ⟨notParen, notBrace, noName⟩
              : d ≠ '(' ∧ d ≠ '\x7b' ∧ isNameStart d = false := by
            simpa [begins, not_or, and_assoc] using plain
          simp [read, afterDollar, notParen, notBrace, nameAt_cons_eq_nil noName]
        · simp [read, backslash, dollar]

/-- An inert text is made of its characters. -/
theorem scan_read_of_inert {t : Text} (inert : Inert t) (total : Nat)
    : Text.scan (read total) t = t.map fun c => literal [c] := by
  induction t with
  | nil => rfl
  | cons c rest ih =>
      obtain ⟨first, others⟩ := List.isChain_cons.mp inert
      rw [Text.scan_cons, read_eq_literal first, List.drop_zero, ih others, List.map_cons]

end Piece

/-- Pieces that are all literal are replaced by themselves, by induction on the characters. -/
theorem Scope.mapM_replace_literal (scope : Scope) (t : Text)
    : (t.map fun c => Piece.literal [c]).mapM scope.replace = pure (t.map fun c => [c]) := by
  induction t with
  | nil => rfl
  | cons c rest ih =>
      rw [List.map_cons, List.mapM_cons, ih]
      rfl

/-- An inert text stands for itself in every scope, and is approved there. -/
theorem Scope.settled_of_inert (scope : Scope) {t : Text} (inert : Piece.Inert t)
    : scope.settled t = .ok t := by
  have replaced : scope.restrict.substitute t = pure t := by
    rw [substitute, Piece.ofText, Piece.scan_read_of_inert inert, mapM_replace_literal, pure_bind,
      ← List.flatMap_def, List.flatMap_singleton']
  rw [settled, replaced]
  rfl

end LiveIni
