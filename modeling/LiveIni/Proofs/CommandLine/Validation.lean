import LiveIni.CommandLine
import LiveIni.Proofs.Document.Requirements
import LiveIni.Proofs.Pipeline.Settling

/-!
The verdict of a check. Checking settles on what the document lacks, whatever the logger does with it,
and the command reports just that.
-/

namespace LiveIni

/-- Checking comes to what the document lacks of the requirements, in every world. -/
theorem Pipeline.validate_settles (p : Pipeline) (d : Document) (required : Requirements)
    : (p.validate d required).Settles (.ok (required.gaps d)) := by
  unfold validate
  dsimp only
  refine Action.Settles.bind_ok (a := PUnit.unit) ?_ (.pure _)
  induction required.gaps d with
  | nil => exact .pure _
  | cons gap rest ih =>
      rw [List.forIn_cons]
      refine Action.Settles.bind_ok (a := ForInStep.yield PUnit.unit) ?_ ih
      exact (p.log_settles .warn gap.message).bind_ok (.pure _)

namespace Command

/-- The exit code and the output for what a document lacks. -/
def verdict (gaps : List Diagnostic) : Nat × Text :=
  match gaps with
  | [] => (0, "OK\n".toList)
  | _ => (1, gaps.flatMap fun gap => gap.message ++ ['\n'])

/-- The command fails where loading does, and else gives its verdict on what is loaded. -/
theorem act_validate (s : Session) (path : Text) (specs : List Text) (world : World)
    : (act s (.validate path specs) world).1
      = (loadDocument s path none none world).1.map fun d =>
          verdict ((Requirements.ofTexts specs).gaps d) := by
  simp only [act]
  rcases loads : loadDocument s path none none world with ⟨result, after⟩
  cases result with
  | error fault =>
      rw [Computation.bind_of_error loads]
      rfl
  | ok d =>
      rw [Computation.bind_of_ok loads]
      obtain ⟨last, checked⟩ :=
        (s.pipeline.validate_settles d (Requirements.ofTexts specs)).runs after
      rw [Computation.bind_of_ok checked, Except.map]
      cases (Requirements.ofTexts specs).gaps d with
      | nil => rfl
      | cons gap rest => rfl

end Command

/-- Each text writes one requirement. Checking a document against the texts comes to what it lacks of
these, which is nothing if and only if it meets all of them. The command, on the document that it
loads, says so or prints what is lacking.
-/
theorem Command.validate_reports_unmet (specs : List Text)
    : ∃ rs, (∀ others, List.Forall₂ Requirement.Writes specs others ↔ others = rs)
      ∧ (∀ (p : Pipeline) (d : Document),
          (p.validate d (Requirements.ofTexts specs)).Settles (.ok (Requirement.unmet d rs)))
      ∧ (∀ d : Document, Requirement.unmet d rs = [] ↔ ∀ r ∈ rs, r.MetBy d)
      ∧ ∀ (s : Session) (path : Text) (world : World),
        (act s (.validate path specs) world).1
          = (loadDocument s path none none world).1.map fun d =>
              if ∀ r ∈ rs, r.MetBy d then (0, "OK\n".toList)
              else (1, (Requirement.unmet d rs).flatMap fun gap => gap.message ++ ['\n']) := by
  have group := Requirements.group_ofTexts specs
  refine ⟨specs.map Requirement.ofText, fun others => Requirement.forall₂_writes_iff, ?_,
    fun d => Requirement.unmet_eq_nil_iff, ?_⟩
  · intro p d
    rw [← group.gaps_eq d]
    exact p.validate_settles d _
  · intro s path world
    rw [act_validate]
    congr 1
    funext d
    rw [group.gaps_eq d]
    split
    · next met => rw [Requirement.unmet_eq_nil_iff.mpr met, verdict]
    · next lacking =>
        rw [verdict]
        exact fun nothing => lacking (Requirement.unmet_eq_nil_iff.mp nothing)

end LiveIni
