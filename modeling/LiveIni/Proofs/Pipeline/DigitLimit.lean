import LiveIni.Proofs.Inference.Outcome
import LiveIni.Proofs.Pipeline.Resolution

/-!
The one kind of value that is inferred and cannot be written: integers of 4301 digits, one more than an
integer may have in a text. A literal of any size has room in the width of big integers up to there, so
that a text that has been approved may fail to be parsed.
-/

namespace LiveIni

open Number

-----------------------------------------------------------------------------------------
-- Values that cannot be written
-----------------------------------------------------------------------------------------

/-- Only integers of too many digits cannot be written. -/
theorem TypedValue.render?_eq_none_iff {v : TypedValue}
    : v.render? = none ↔ ∃ n, v.value = .int n ∧ tenTo Value.maxIntegerDigits ≤ n.natAbs := by
  have integer (n : Int) : Value.renderInt? n = none ↔ tenTo Value.maxIntegerDigits ≤ n.natAbs := by
    rw [Value.renderInt?, ite_eq_right_iff]
    simp
  cases v with
  | integer type n => simpa [render?, Value.render?, value] using integer n
  | bigint n => simpa [render?, Value.render?, value] using integer n
  | _ => simp [render?, Value.render?, value]

/-- The literal is a big integer of 4301 digits. -/
structure Literal.Overlong (l : Literal) (n : Int) : Prop where
  width : l.width = some .bigint
  short : ¬l.HasLongExponent
  near : ¬l.magnitude.HasFarExponent
  value : l.value = n
  long : tenTo Value.maxIntegerDigits ≤ n.natAbs
  bounded : n.natAbs < tenTo (Value.maxIntegerDigits + 1)

namespace Inference

variable {format : NumberFormat} {t : Text}

/-- What cannot be written of the numbers is a big integer of 4301 digits. -/
theorem unrendered_of_fit? {d : Decimal} {kind : NumberKind} {v : TypedValue}
    (fits : fit? d kind = some v) (unrendered : v.render? = none)
    : kind = .bigint ∧ ∃ n : Int, v = .bigint n ∧ d.value = n
        ∧ tenTo Value.maxIntegerDigits ≤ n.natAbs
        ∧ n.natAbs < tenTo (Value.maxIntegerDigits + 1) := by
  obtain ⟨m, same, long⟩ := TypedValue.render?_eq_none_iff.mp unrendered
  cases kind with
  | integer type =>
      obtain ⟨n, _, held, rfl⟩ := fit?_integer_eq_some_iff.mp fits
      obtain rfl : n = m := Value.int.inj same
      exact absurd (natAbs_lt_of_holds held) (Nat.not_lt.mpr long)
  | bigint =>
      obtain ⟨n, value, short, rfl⟩ := fit?_bigint_eq_some_iff.mp fits
      obtain rfl : n = m := Value.int.inj same
      exact ⟨rfl, n, rfl, value, long, short⟩
  | decimal =>
      obtain ⟨fixed, _, rfl⟩ := Option.map_eq_some_iff.mp fits
      cases same
  | double =>
      obtain ⟨x, _, rfl⟩ := Option.map_eq_some_iff.mp fits
      cases same

/-- Only a literal with the width of big integers is tried as one. -/
theorem bigint_mem_kinds_iff {l : Literal} : .bigint ∈ l.kinds ↔ l.width = some .bigint := by
  unfold Literal.kinds
  cases l.width with
  | none => exact iff_of_false bigint_not_tried nofun
  | some width => cases width <;> simp [Width.kind?]

/-- A text is inferred to be a value that cannot be written exactly if it writes a big integer of 4301
digits.
-/
theorem exists_unrendered_iff
    : (∃ v invalid, infer format t = .ok (v, invalid) ∧ v.render? = none)
      ↔ ∃ l normalized n, format.Writes l t normalized ∧ l.Overlong n := by
  constructor
  · rintro ⟨v, invalid, inferred, unrendered⟩
    have outcome := infer_outcome format t
    rw [inferred] at outcome
    cases outcome with
    | truth _ _ => cases unrendered
    | text _ _ => cases unrendered
    | @literal l normalized _ writes outcome =>
        cases outcome with
        | number decimal _ first =>
            obtain ⟨kind, tried, fits⟩ := List.exists_of_findSome?_eq_some first
            obtain ⟨rfl, n, rfl, value, long, bounded⟩ := unrendered_of_fit? fits unrendered
            obtain ⟨short, near⟩ := Literal.inRange_of_toDecimal decimal
            refine ⟨l, normalized, n, writes, bigint_mem_kinds_iff.mp tried, short, near, ?_, long,
              bounded⟩
            rw [← Literal.value_of_toDecimal decimal, value]
        | unfit _ _ _ => cases unrendered
        | farExponent _ _ => cases unrendered
  · rintro ⟨l, normalized, n, writes, overlong⟩
    obtain ⟨long, _⟩ | ⟨_, far, _⟩ | ⟨_, _, d, found, value⟩ := l.toDecimal_outcome
    · exact absurd long overlong.short
    · exact absurd far overlong.near
    · have plain : 'ſ' ∉ normalized := by
        intro long
        rcases writes.width_of_long_s long with width | width <;>
          cases overlong.width.symm.trans width
      have fits := fit?_bigint_eq_some_iff.mpr ⟨n, value.trans overlong.value, overlong.bounded, rfl⟩
      have first : l.kinds.findSome? (fit? d) = some (.bigint n) := by
        rw [Literal.kinds, overlong.width]
        simpa [Width.kind?] using fits
      refine ⟨_, _, infer_of_writes writes plain found first, ?_⟩
      exact TypedValue.render?_eq_none_iff.mpr ⟨n, rfl, overlong.long⟩

end Inference

open Inference

-----------------------------------------------------------------------------------------
-- Parsing
-----------------------------------------------------------------------------------------

namespace Pipeline

variable {p : Pipeline} {scope : Scope} {expand : Bool} {text : Text}

/-- A raw text that is approved and means a value that cannot be written is not admitted for that. -/
theorem admitted_eq_digitLimit_iff {raw : Text}
    : p.admitted scope expand raw = .error .digitLimit
      ↔ ∃ reading, p.meaning scope expand raw = .ok reading ∧ reading.1.render? = none := by
  have otherFault : p.meaning scope expand raw ≠ .error .digitLimit := by
    unfold meaning
    cases scope.settled raw with
    | error fault => exact nofun
    | ok s =>
        dsimp only
        cases infer p.format (if expand then scope.environment.expand s else s) <;> nofun
  unfold admitted
  cases meant : p.meaning scope expand raw with
  | error fault =>
      refine iff_of_false (fun same => otherFault ?_) nofun
      rw [meant]
      exact same
  | ok reading =>
      change (if reading.1.render?.isSome then (.ok reading : Except PipelineFault Reading)
        else .error .digitLimit) = _ ↔ _
      cases rendered : reading.1.render? <;> simp [rendered]

/-- The text that a raw text comes to writes a big integer of 4301 digits. -/
def Overlong (p : Pipeline) (scope : Scope) (expand : Bool) (raw : Text) : Prop :=
  ∃ s l normalized n, scope.settled raw = .ok s
    ∧ p.format.Writes l (if expand then scope.environment.expand s else s) normalized
    ∧ l.Overlong n

theorem overlong_iff {raw : Text}
    : p.Overlong scope expand raw
      ↔ ∃ reading, p.meaning scope expand raw = .ok reading ∧ reading.1.render? = none := by
  unfold Overlong meaning
  cases scope.settled raw with
  | error fault => simp
  | ok s =>
      dsimp only
      constructor
      · rintro ⟨_, l, normalized, n, same, writes, overlong⟩
        cases same
        obtain ⟨v, invalid, inferred, unrendered⟩ :=
          exists_unrendered_iff.mpr ⟨l, normalized, n, writes, overlong⟩
        rw [inferred]
        exact ⟨(v, invalid), rfl, unrendered⟩
      · rintro ⟨⟨v, invalid⟩, meant, unrendered⟩
        cases inferred : infer p.format (if expand then scope.environment.expand s else s) with
        | error fault =>
            rw [inferred] at meant
            cases meant
        | ok reading =>
            rw [inferred] at meant
            cases meant
            obtain ⟨l, normalized, n, writes, overlong⟩ :=
              exists_unrendered_iff.mp ⟨v, invalid, inferred, unrendered⟩
            exact ⟨s, l, normalized, n, rfl, writes, overlong⟩

/-- A line cannot be read for the digits of a value just if its raw text comes to such a value. -/
theorem readLine_eq_digitLimit_iff {b : Builder} {l : PlacedLine}
    : p.readLine scope expand b l = .error .digitLimit
      ↔ ∃ raw, l.raw? = some raw ∧ p.Overlong scope expand raw := by
  unfold readLine
  cases l.raw? with
  | none => exact iff_of_false nofun nofun
  | some raw =>
      simp only [Option.some.injEq, exists_eq_left', overlong_iff, ← admitted_eq_digitLimit_iff]
      rw [Computation.bind_eq_error_iff, or_iff_left]
      rintro ⟨reading, _, fails⟩
      cases fails

/-- The first raw text that is not admitted comes to a big integer of 4301 digits. -/
def MeetsOverlong (p : Pipeline) (scope : Scope) (expand : Bool) (text : Text) : Prop :=
  ∃ before line after raw, PlacedLine.ofText text = before ++ line :: after
    ∧ (∀ earlier ∈ before.filterMap (·.raw?), p.Admits scope expand earlier)
    ∧ line.raw? = some raw ∧ p.Overlong scope expand raw

/-- Rejection is another fault. -/
theorem verdict_ne_digitLimit (texts : List Text)
    : p.verdict scope texts ≠ .error .digitLimit := by
  unfold verdict judgement
  generalize p.interruption.elim (Trial.ofResult (Trial.result scope texts)) Interruption.trial = trial
  cases trial.rejection? p.timeLimit <;> nofun

/-- Approved lines cannot be read for the digits of a value just if they meet such a value first. -/
theorem parsed_eq_digitLimit_iff
    : p.parsed scope expand text = .error .digitLimit
      ↔ p.verdict scope ((PlacedLine.ofText text).filterMap (·.raw?)) = .ok ()
        ∧ p.MeetsOverlong scope expand text := by
  have read : ((PlacedLine.ofText text).foldlM (p.readLine scope expand)
        (.ofMalformed (PlacedLine.ofText text)) = .error .digitLimit)
      ↔ p.MeetsOverlong scope expand text := by
    rw [Computation.foldlM_eq_error_iff]
    constructor
    · rintro ⟨before, line, after, b, cut, ran, fails⟩
      obtain ⟨raw, found, overlong⟩ := readLine_eq_digitLimit_iff.mp fails
      exact ⟨before, line, after, raw, cut, (foldlM_readLine_eq_ok_iff.mp ran).1, found, overlong⟩
    · rintro ⟨before, line, after, raw, cut, admits, found, overlong⟩
      exact ⟨before, line, after, _, cut, foldlM_readLine_eq_ok_iff.mpr ⟨admits, rfl⟩,
        readLine_eq_digitLimit_iff.mpr ⟨raw, found, overlong⟩⟩
  rw [← read]
  unfold parsed
  dsimp only
  rw [Computation.bind_eq_error_iff, or_iff_right (verdict_ne_digitLimit _)]
  constructor
  · rintro ⟨_, approved, fails⟩
    rcases Computation.bind_eq_error_iff.mp fails with folded | ⟨b, _, built⟩
    · exact ⟨approved, folded⟩
    · cases built
  · rintro ⟨approved, folded⟩
    exact ⟨(), approved, Computation.bind_eq_error_iff.mpr (.inl folded)⟩

/-- The only value that is inferred and cannot be written is a big integer of 4301 digits: a text is
inferred to be one just if it writes a literal of that value with the width of big integers. Parsing
fails to write a value just if the text has been approved and one of its raw texts comes to such a
literal, the first one that is not admitted.
Witness: a big integer may have one digit more than a text of an integer, and no other kind as many.
-/
theorem unrendered_iff (p : Pipeline)
    : (∀ t, (∃ v invalid, infer p.format t = .ok (v, invalid) ∧ v.render? = none)
        ↔ ∃ l normalized n, p.format.Writes l t normalized ∧ l.Overlong n)
      ∧ ∀ scope expand text,
        (∃ world after, p.parse scope expand text world = (.error .digitLimit, after))
          ↔ p.verdict scope ((PlacedLine.ofText text).filterMap (·.raw?)) = .ok ()
            ∧ p.MeetsOverlong scope expand text := by
  refine ⟨fun t => exists_unrendered_iff, fun scope expand text => ?_⟩
  have settles := p.parse_settles scope expand text
  rw [← parsed_eq_digitLimit_iff]
  constructor
  · rintro ⟨world, after, ran⟩
    exact settles.result_eq ran
  · intro fails
    exact ⟨{}, (p.parse scope expand text {}).2, Prod.ext ((settles {}).1.trans fails) rfl⟩

/-- The power of ten with 4301 digits is inferred to be a big integer, but it cannot be written, and a
text in which it is the only value is approved and then not parsed.
-/
theorem parse_fails_at_powerOfTen
    : infer NumberFormat.invariant "1e4300n".toList = .ok (.bigint (tenTo 4300), none)
        ∧ (TypedValue.bigint (tenTo 4300)).render? = none
        ∧ ({} : Pipeline).verdict {} ["1e4300n".toList] = .ok ()
        ∧ (({} : Pipeline).parse {} false "a=1e4300n".toList {}).1 = .error .digitLimit := by
  decide +kernel

end Pipeline

end LiveIni
