import LiveIni.Proofs.Document.Tables
import LiveIni.Proofs.Expression.Constants
import LiveIni.Proofs.Expression.Invariants
import LiveIni.Proofs.Expression.Outcome
import LiveIni.Substitution

/-!
Which faults of a substitution are not faults of evaluation. There are five ways to such a fault: an
expression that is given up while it is read, a null character in one, an integer with too many
digits to be written, a decimal with more places than memory holds, and decimal arithmetic that
refuses its operands by anything but a division by zero.
-/

namespace LiveIni

open Number

namespace Fault

/-- The fault is one of evaluation, or of the two kinds that count among these. -/
def IsEvaluation (f : Fault) : Prop :=
  f.kind = .evaluation ∨ f.kind = .operationRefused ∨ f.kind = .undefinedReference

instance : DecidablePred IsEvaluation :=
  fun f => inferInstanceAs (Decidable (f.kind = .evaluation ∨ _))

/-- Decimal arithmetic refuses its operands by a fault of evaluation only for a division by zero. -/
theorem not_isEvaluation_decimal {signal : DecimalSignal} (other : signal ≠ .divisionByZero)
    : ¬ (operands (.decimal signal)).IsEvaluation := by
  cases signal with
  | divisionByZero => exact absurd rfl other
  | _ => decide

theorem not_isEvaluation_unread (failure : ReaderFailure) : ¬ (unread failure).IsEvaluation := by
  have kind : (unread failure).kind = .value := rfl
  rw [IsEvaluation, kind]
  decide

/-- The fault is of another kind than evaluation. A text constant with a lone surrogate does not
count: it has a value, which only has no place among lists of characters.
-/
def IsForeign (f : Fault) : Prop :=
  ¬ f.IsEvaluation ∧ f ≠ .surrogates

instance : DecidablePred IsForeign :=
  fun f => inferInstanceAs (Decidable (¬ f.IsEvaluation ∧ f ≠ .surrogates))

/-- The fault is not foreign, or one of decimal arithmetic where `decimals` take part. -/
def Allowed (decimals : Prop) (f : Fault) : Prop :=
  ¬ f.IsForeign ∨ decimals ∧ ∃ signal, f = .operands (.decimal signal)

theorem Allowed.evaluation {decimals : Prop} {f : Fault} (holds : f.IsEvaluation)
    : f.Allowed decimals :=
  Or.inl fun foreign => foreign.1 holds

theorem Allowed.operands {decimals : Prop} {f : OperandFault}
    (source : ∀ signal, f = .decimal signal → decimals)
    : (Fault.operands f).Allowed decimals := by
  cases f with
  | decimal signal => exact Or.inr ⟨source signal rfl, signal, rfl⟩
  | _ => exact Allowed.evaluation (Or.inl rfl)

end Fault

-----------------------------------------------------------------------------------------
-- Scopes
-----------------------------------------------------------------------------------------

namespace Scope

/-- No operation passes on a fault of another kind than evaluation. -/
def FailsByEvaluation (scope : Scope) : Prop :=
  ∀ op, scope.Holds op → ∀ count args f, op.run count args = .error (.fault f) → f.IsEvaluation

/-- The scope has no decimals, neither as bindings nor as results of operations. -/
structure NoDecimals (scope : Scope) : Prop where
  bound : ∀ {name v}, scope.bindings.get? name = some (.value v) → v.isDecimal = false
  result : ∀ {op count args v}, scope.Holds op → op.run count args = .ok v → v.isDecimal = false

variable {scope : Scope} {decimals : Prop}

/-- A scope that binds names to values and has no operations has none that could fail. -/
theorem failsByEvaluation_of_plain (values : ∀ entry ∈ scope.bindings, ∃ v, entry.2 = .value v)
    (none : scope.operations = [])
    : scope.FailsByEvaluation := by
  rintro op (⟨name, found⟩ | ⟨name, found⟩)
  · rw [none] at found
    cases found
  · obtain ⟨v, same⟩ : ∃ v, Binding.deferred op = .value v := values _ (Table.mem_of_get? found)
    cases same

section

variable (plain : scope.FailsByEvaluation) (source : decimals ∨ scope.NoDecimals)
include plain source

/-- A call results in a decimal only where decimals take part, and fails by evaluation. -/
theorem ensures_invoke {op : Operation} (held : scope.Holds op) (name : Text) (args : List Value)
    : (scope.invoke name op args).Ensures (fun v => v.isDecimal → decimals)
        Fault.IsEvaluation := by
  unfold invoke
  split
  · exact .fails (Or.inr (Or.inl rfl))
  · refine Run.Ensures.bind (.records _) fun _ _ => Run.Ensures.bind .counts fun calls _ => ?_
    split
    · next v result =>
        refine .done fun isDecimal => ?_
        rcases source with holds | none
        · exact holds
        · rw [none.result held result] at isDecimal
          cases isDecimal
    · next f failed => exact .fails (plain op held _ _ f failed)
    · exact .fails (Or.inl rfl)

/-- So do references, which have no arithmetic. -/
theorem supplies_decimals (name : Text)
    : scope.Supplies (fun v => v.isDecimal → decimals) Fault.IsEvaluation name where
  bound := by
    intro v found isDecimal
    rcases source with holds | none
    · exact holds
    · rw [none.bound found] at isDecimal
      cases isDecimal
  defined := fun _ _ => nofun
  truth := fun _ => nofun
  null := nofun
  invoked := fun held args => ensures_invoke plain source held name args
  undefined := Or.inr (Or.inr rfl)
  unknown := Or.inl rfl

/-- Decimals are an invariant: operators make them, and fail as they do, only from one another. -/
theorem invariant_decimals
    : scope.Invariant (fun _ v => v.isDecimal → decimals) (Fault.Allowed decimals) where
  mono := fun _ holds => holds
  truth := fun _ _ => nofun
  unary := by
    intro n v w op _ applied isDecimal
    rw [(Value.isNumeric_unary applied).2] at isDecimal
    cases isDecimal
  notUnary := by
    intro n v f op _ failed
    unfold UnaryOp.apply at failed
    split at failed <;> cases failed <;> exact .evaluation (Or.inl rfl)
  binary := by
    intro m n v w u op left right applied isDecimal
    exact ((Value.decimals_of_apply op v w).1 u applied isDecimal).elim left right
  notBinary := by
    intro m n v w f op left right failed
    refine .operands fun signal same => ?_
    subst same
    exact ((Value.decimals_of_apply op v w).2 signal failed).elim left right
  notComparable := by
    intro m n v w f op left right failed
    refine .operands fun signal same => ?_
    subst same
    exact (Value.decimals_of_compareBy failed).elim left right
  call := fun name _ args _ =>
    ((supplies_decimals plain source name).callName args).allow fun _ => .evaluation
  tooDeep := fun _ => .evaluation (Or.inl rfl)
  constant := fun _ => .evaluation (Or.inl rfl)
  surrogates := Or.inl fun foreign => foreign.2 rfl
  operator := fun _ => .evaluation (Or.inl rfl)
  comparison := fun _ => .evaluation (Or.inl rfl)
  plainCall := .evaluation (Or.inl rfl)
  element := fun _ => .evaluation (Or.inl rfl)

/-- What has been read as an expression fails by evaluation, or by decimal arithmetic where decimals
take part.
-/
theorem ensures_eval {t body : Text} {e : Expr} (parsed : Expr.parse? scope.names body = some e)
    : (scope.eval t scope.limits.depth e).Ensures (fun v => v.isDecimal → decimals)
        (Fault.Allowed decimals) := by
  refine (invariant_decimals plain source).eval _ _ fun leaf member => ?_
  cases leaf with
  | constant v =>
      intro isDecimal
      rw [Expr.noDecimals_of_parse? parsed v member] at isDecimal
      cases isDecimal
  | name id => exact (supplies_decimals plain source id).nameValue.allow fun _ => .evaluation
  | _ => trivial

/-- An expression has a decimal for its value only where decimals take part. -/
theorem isDecimal_of_evaluate {t : Text} {calls after : Calls} {v : Value}
    (value : scope.evaluate t calls = (.ok v, after))
    : v.isDecimal → decimals := by
  have outcome := scope.evaluates t
  generalize scope.evaluate t = run at value outcome
  cases outcome with
  | blank =>
      cases value
      exact nofun
  | expression _ _ parsed => exact (ensures_eval plain source parsed).result value
  | _ => cases value

/-- An expression that fails has been given up, has a null character, or fails by evaluation, or by
decimal arithmetic where decimals take part.
-/
theorem fault_of_evaluate {t : Text} {calls after : Calls} {f : Fault}
    (failed : scope.evaluate t calls = (.error f, after))
    : (∃ failure, f = .unread failure ∧ after = calls ∧ Text.strip t ≠ []
          ∧ scope.limits.reader (Text.strip t) = some failure)
        ∨ (f = .nullCharacter ∧ after = calls ∧ scope.limits.reader (Text.strip t) = none
          ∧ '\x00' ∈ Text.strip t)
        ∨ f.Allowed decimals := by
  have outcome := scope.evaluates t
  generalize scope.evaluate t = run at failed outcome
  cases outcome with
  | blank => cases failed
  | unread filled gaveUp =>
      cases failed
      exact .inl ⟨_, rfl, rfl, filled, gaveUp⟩
  | nullCharacter whole null =>
      cases failed
      exact .inr (.inl ⟨rfl, rfl, whole, null⟩)
  | expression _ _ parsed => exact .inr (.inr ((ensures_eval plain source parsed).fault failed))
  | invalid =>
      cases failed
      exact .inr (.inr (.evaluation (Or.inl rfl)))

end

-----------------------------------------------------------------------------------------
-- Pieces
-----------------------------------------------------------------------------------------

/-- The piece stands for the value, after some calls, and its value leaves these calls. -/
inductive StandsFor (scope : Scope) (calls : Calls) : Piece → Value → Calls → Prop
  | reference {name v after} (value : scope.lookup name calls = (.ok v, after))
    : StandsFor scope calls (.reference name) v after
  | expression {source v after} (value : scope.evaluate source calls = (.ok v, after))
    : StandsFor scope calls (.expression source) v after

/-- A piece, replaced after some calls, fails with a foreign fault, and leaves these calls. -/
inductive Escapes (scope : Scope) (calls : Calls) : Piece → Fault → Calls → Prop
  | unread {source failure} (filled : Text.strip source ≠ [])
    (gaveUp : scope.limits.reader (Text.strip source) = some failure)
    : Escapes scope calls (.expression source) (.unread failure) calls
  | nullCharacter {source} (whole : scope.limits.reader (Text.strip source) = none)
    (null : '\x00' ∈ Text.strip source)
    : Escapes scope calls (.expression source) .nullCharacter calls
  | digits {piece n after} (value : scope.StandsFor calls piece (.int n) after)
    (long : tenTo Value.maxIntegerDigits ≤ n.natAbs)
    : Escapes scope calls piece .digitLimit after
  | places {piece d after} (value : scope.StandsFor calls piece (.decimal d) after)
    (large : scope.limits.holds d = false)
    : Escapes scope calls piece .outOfMemory after
  | signal {source signal after}
    (failed : scope.evaluate source calls = (.error (.operands (.decimal signal)), after))
    (other : signal ≠ .divisionByZero)
    : Escapes scope calls (.expression source) (.operands (.decimal signal)) after

end Scope

namespace Piece

/-- What is malformed in a text is a reference or an expression, which is a fault of evaluation. -/
theorem isEvaluation_of_malformed {t : Text} {f : Fault} (member : .malformed f ∈ ofText t)
    : f.IsEvaluation := by
  obtain ⟨c, rest, same⟩ := Text.exists_of_mem_scanFrom _ member
  unfold read at same
  split at same
  · split at same
    · split at same <;> cases same
    · cases same
  · split at same
    · unfold afterDollar at same
      split at same
      · split at same
        · cases same
        · cases same
          exact Or.inl rfl
      · split at same
        · split at same
          · cases same
          · cases same
            exact Or.inl rfl
        · cases same
          exact Or.inl rfl
      · dsimp only at same
        split at same <;> cases same
    · cases same

end Piece

namespace Scope

variable {scope : Scope} {calls after : Calls} {piece : Piece} {f : Fault} {v : Value}

/-- A piece is replaced by the text of the value that it stands for. -/
theorem StandsFor.replace (stands : scope.StandsFor calls piece v after)
    : scope.replace piece calls = scope.render v after := by
  cases stands with
  | reference value => exact Computation.bind_of_ok value
  | expression value => exact Computation.bind_of_ok value

/-- A piece that escapes fails to be replaced. -/
theorem Escapes.replace (escapes : scope.Escapes calls piece f after)
    : scope.replace piece calls = (.error f, after) := by
  cases escapes with
  | unread filled gaveUp =>
      exact Computation.bind_of_error (congrFun (evaluate_of_unread filled gaveUp) calls)
  | nullCharacter whole null =>
      exact Computation.bind_of_error (congrFun (evaluate_of_nullCharacter whole null) calls)
  | digits value long =>
      rw [value.replace]
      exact render_eq_error_iff.mpr ⟨rfl, .inl ⟨rfl, _, rfl, long⟩⟩
  | places value large =>
      rw [value.replace]
      exact render_eq_error_iff.mpr ⟨rfl, .inr ⟨rfl, _, rfl, large⟩⟩
  | signal failed other => exact Computation.bind_of_error failed

theorem Escapes.isForeign (escapes : scope.Escapes calls piece f after) : f.IsForeign := by
  cases escapes with
  | unread => exact ⟨Fault.not_isEvaluation_unread _, nofun⟩
  | nullCharacter | digits | places => exact ⟨by decide, nofun⟩
  | signal failed other => exact ⟨Fault.not_isEvaluation_decimal other, nofun⟩

/-- The value of a piece that fails to be written escapes. -/
theorem StandsFor.escapes {middle : Calls} (stands : scope.StandsFor calls piece v middle)
    (failed : scope.render v middle = (.error f, after))
    : scope.Escapes calls piece f after := by
  obtain ⟨rfl, ⟨rfl, n, rfl, long⟩ | ⟨rfl, d, rfl, large⟩⟩ := render_eq_error_iff.mp failed
  · exact .digits stands long
  · exact .places stands large

/-- A piece of a text that fails to be replaced with a foreign fault escapes. -/
theorem escapes_of_replace (plain : scope.FailsByEvaluation) {t : Text}
    (member : piece ∈ Piece.ofText t) (failed : scope.replace piece calls = (.error f, after))
    (foreign : f.IsForeign)
    : scope.Escapes calls piece f after := by
  have everywhere : True ∨ scope.NoDecimals := Or.inl trivial
  cases piece with
  | literal t => cases failed
  | reference name =>
      rcases Computation.bind_fails_iff.mp failed with failed | ⟨v, middle, value, failed⟩
      · exact absurd ((supplies_decimals plain everywhere name).lookup.fault failed) foreign.1
      · exact (StandsFor.reference value).escapes failed
  | expression source =>
      rcases Computation.bind_fails_iff.mp failed with failed | ⟨v, middle, value, failed⟩
      · obtain ⟨failure, rfl, rfl, filled, gaveUp⟩ | ⟨rfl, rfl, whole, null⟩
            | native | ⟨-, signal, rfl⟩ := fault_of_evaluate plain everywhere failed
        · exact .unread filled gaveUp
        · exact .nullCharacter whole null
        · exact absurd foreign native
        · refine .signal failed fun same => ?_
          subst same
          exact foreign.1 (Or.inl rfl)
      · exact (StandsFor.expression value).escapes failed
  | malformed fault =>
      cases failed
      exact absurd (Piece.isEvaluation_of_malformed member) foreign.1

/-- Without decimals, no piece stands for a decimal. -/
theorem StandsFor.isDecimal_eq_false (plain : scope.FailsByEvaluation) (none : scope.NoDecimals)
    (stands : scope.StandsFor calls piece v after)
    : v.isDecimal = false := by
  have never : False ∨ scope.NoDecimals := Or.inr none
  rw [Bool.eq_false_iff]
  cases stands with
  | reference value => exact (supplies_decimals plain never _).lookup.result value
  | expression value => exact isDecimal_of_evaluate plain never value

/-- Without decimals, no expression fails by decimal arithmetic. -/
theorem evaluate_ne_signal (plain : scope.FailsByEvaluation) (none : scope.NoDecimals)
    {source : Text} {signal : DecimalSignal} (other : signal ≠ .divisionByZero)
    : scope.evaluate source calls ≠ (.error (.operands (.decimal signal)), after) := by
  intro failed
  have never : False ∨ scope.NoDecimals := Or.inr none
  rcases fault_of_evaluate plain never failed with ⟨_, ⟨⟩, _⟩ | ⟨⟨⟩, _⟩ | native | ⟨no, -⟩
  · exact native ⟨Fault.not_isEvaluation_decimal other, nofun⟩
  · exact no

/-- A substitution fails where the first piece of the text fails that cannot be replaced. -/
theorem substitute_eq_error_iff {t : Text}
    : scope.substitute t calls = (.error f, after)
      ↔ ∃ before piece later texts middle, Piece.ofText t = before ++ piece :: later
        ∧ before.mapM scope.replace calls = (.ok texts, middle)
        ∧ scope.replace piece middle = (.error f, after) := by
  rw [substitute, Computation.bind_fails_iff, ← Computation.mapM_fails_iff]
  refine or_iff_left ?_
  rintro ⟨texts, middle, -, none⟩
  cases none

/-- A substitution that fails, fails by evaluation, except where a piece of the text escapes and
those before it have been replaced. Without decimals, only expressions that are given up, null
characters and integers with too many digits escape.
Witness: evaluation keeps it that decimal arithmetic fails for decimals only, and no expression
writes one.
-/
theorem substitute_escapes (plain : scope.FailsByEvaluation) (t : Text) (calls : Calls)
    : (∀ f after, (scope.substitute t calls = (.error f, after) ∧ f.IsForeign)
        ↔ ∃ before piece later texts middle, Piece.ofText t = before ++ piece :: later
          ∧ before.mapM scope.replace calls = (.ok texts, middle)
          ∧ scope.Escapes middle piece f after)
      ∧ (scope.NoDecimals → ∀ f after, scope.substitute t calls = (.error f, after)
        → f.IsForeign → f = .nullCharacter ∨ f = .digitLimit ∨ ∃ failure, f = .unread failure) := by
  have escapes (f : Fault) (after : Calls)
      : (scope.substitute t calls = (.error f, after) ∧ f.IsForeign)
        ↔ ∃ before piece later texts middle, Piece.ofText t = before ++ piece :: later
          ∧ before.mapM scope.replace calls = (.ok texts, middle)
          ∧ scope.Escapes middle piece f after := by
    rw [substitute_eq_error_iff]
    constructor
    · rintro ⟨⟨before, piece, later, texts, middle, cut, ran, failed⟩, foreign⟩
      have member : piece ∈ Piece.ofText t := by
        rw [cut]
        exact List.mem_append_right before List.mem_cons_self
      exact ⟨before, piece, later, texts, middle, cut, ran,
        escapes_of_replace plain member failed foreign⟩
    · rintro ⟨before, piece, later, texts, middle, cut, ran, holds⟩
      exact ⟨⟨before, piece, later, texts, middle, cut, ran, holds.replace⟩, holds.isForeign⟩
  refine ⟨escapes, fun none f after failed foreign => ?_⟩
  obtain ⟨_, _, _, _, _, _, _, holds⟩ := (escapes f after).mp ⟨failed, foreign⟩
  cases holds with
  | unread => exact .inr (.inr ⟨_, rfl⟩)
  | nullCharacter => exact .inl rfl
  | digits => exact .inr (.inl rfl)
  | places value => cases value.isDecimal_eq_false plain none
  | signal failed other => exact absurd failed (evaluate_ne_signal plain none other)

/-- Zero by zero is no division by zero in decimal arithmetic, so that the fault escapes after the
reference before it.
-/
theorem substitute_escapes_zeros
    : let scope : Scope := { bindings := [("d".toList, .value (.decimal (.finite ⟨false, 0, 0⟩)))] }
      let t := "$d$(d / d)".toList
      scope.FailsByEvaluation
        ∧ scope.substitute t [] = (.error (.operands (.decimal .divisionUndefined)), [])
        ∧ ∃ before piece later texts middle, Piece.ofText t = before ++ piece :: later
          ∧ before.mapM scope.replace [] = (.ok texts, middle)
          ∧ scope.Escapes middle piece (.operands (.decimal .divisionUndefined)) [] := by
  intro scope t
  have plain : scope.FailsByEvaluation := failsByEvaluation_of_plain (by simp [scope]) rfl
  have failed : scope.substitute t [] = (.error (.operands (.decimal .divisionUndefined)), []) :=
    Prod.ext (by decide +kernel) (by decide +kernel)
  exact ⟨plain, failed, ((substitute_escapes plain t []).1 _ _).mp ⟨failed, by decide⟩⟩

/-- With plain bindings, foreign faults escape in each of the five ways: by arithmetic, by a null
character, by digits, by more places than memory holds, and by more operands inside each other than
the reader bears.
-/
theorem substitute_fails_otherwise
    : let zero : Scope := { bindings := [("d".toList, .value (.decimal (.finite ⟨false, 0, 0⟩)))] }
      let power : Scope := { bindings := [("n".toList, .value (.int (10 ^ 2150)))] }
      let huge : Scope := {
        bindings := [("d".toList, .value (.decimal (.finite ⟨false, 1, 999999999999⟩)))]
        limits := { holds := fun d => d ≠ .finite ⟨false, 1, 999999999999⟩ } }
      let narrow : Scope := {
        limits := { reader := fun t => if 10 < t.length then some .recursion else none } }
      zero.substitute "$(d / d)".toList []
          = (.error (.operands (.decimal .divisionUndefined)), [])
        ∧ (Fault.operands (.decimal .divisionUndefined)).IsForeign
        ∧ zero.substitute "$(\x00)".toList [] = (.error .nullCharacter, [])
        ∧ Fault.nullCharacter.IsForeign
        ∧ power.substitute "$(n * n)".toList [] = (.error .digitLimit, [])
        ∧ Fault.digitLimit.IsForeign
        ∧ huge.substitute "$d".toList [] = (.error .outOfMemory, [])
        ∧ Fault.outOfMemory.IsForeign
        ∧ narrow.substitute "$(-----------1)".toList [] = (.error (.unread .recursion), [])
        ∧ (Fault.unread .recursion).IsForeign := by
  refine ⟨?_, by decide, ?_, by decide, ?_, by decide, ?_, by decide, ?_, by decide⟩ <;>
    exact Prod.ext (by decide +kernel) (by decide +kernel)

end Scope

end LiveIni
