import LiveIni.Substitution

/-!
The trial before a substitution. All texts of a document are substituted in a restricted
scope first, in which no operation is invoked. Only if that succeeds, in time, is the document
approved; its result is thrown away.
-/

namespace LiveIni

/-- How a trial ended. -/
inductive Trial where
  | passed
  | failed (fault : Fault)
  | timedOut
  | cancelled
  /-- The trial broke for a reason that is not the text's. -/
  | broken (message : Text)
deriving DecidableEq, Repr

/-- What can end a trial before its texts are all substituted: the time limit, a cancellation, or
a breakdown that is not the text's.
-/
inductive Interruption where
  | timeLimit
  | cancellation
  | breakdown (message : Text)
deriving DecidableEq, Repr

/-- How an interrupted trial ends. It has not passed, however far it has come. -/
def Interruption.trial : Interruption → Trial
  | timeLimit => .timedOut
  | cancellation => .cancelled
  | breakdown message => .broken message

/-- Why a document is not substituted. -/
structure SecurityViolation where
  reason : String
  cause : Trial
deriving DecidableEq, Repr

def SecurityViolation.message (v : SecurityViolation) : String :=
  "Substitution rejected by sandbox: " ++ v.reason

namespace Trial

/-- The texts of a document substituted one after the other, so that no reference can reach
from one into the next.
-/
def substituteAll (scope : Scope) (texts : List Text) : Run Unit :=
  texts.forM fun t => do
    let _ ← scope.substitute t

/-- Runs a trial in the restricted form of a scope. Placeholders need no trial, because they
cannot fail.
-/
def run (scope : Scope) (texts : List Text) (calls : Calls) : Trial × Calls :=
  match substituteAll scope.restrict texts calls with
  | (.ok _, calls) => (passed, calls)
  | (.error fault, calls) => (failed fault, calls)

/-- The reason for which a trial is logged as rejected, and the violation; none if it passed.
The time limit is shown as it was given.
-/
def rejection? (timeLimit : Value) : Trial → Option (String × SecurityViolation)
  | passed => none
  | failed fault => some (fault.message, ⟨fault.message, failed fault⟩)
  | timedOut =>
    let limit := timeLimit.shown.string
    some ("trial substitution did not finish within " ++ limit ++ "s",
      ⟨"timed out after " ++ limit ++ "s", timedOut⟩)
  | cancelled =>
    some ("trial substitution was cancelled", ⟨"trial substitution was cancelled", cancelled⟩)
  | broken message => some (message.string, ⟨message.string, broken message⟩)

end Trial

end LiveIni
