import CatalogReplication.Failure

/-!
# Outcomes

How the run of a task ended. A run is successful if the destination is consistent with the source
afterwards, failed if a part of the task did not succeed, and not completable if a precondition does
not hold although nothing went wrong.
-/

namespace CatalogReplication

/-- How a run ended. -/
inductive RunStatus where
  | successful
  | failed
  | notCompletable
deriving DecidableEq, Repr

namespace RunStatus

/-- The name of a status. -/
def name : RunStatus → String
  | successful => "SUCCESSFUL"
  | failed => "FAILED"
  | notCompletable => "NOT_COMPLETABLE"

/-- The status of a name. -/
def ofName? : String → Option RunStatus
  | "SUCCESSFUL" => some successful
  | "FAILED" => some failed
  | "NOT_COMPLETABLE" => some notCompletable
  | _ => none

end RunStatus

/-- How a run ended, and how many bytes it copied. -/
structure Outcome where
  status : RunStatus
  bytes : Nat := 0
deriving DecidableEq, Repr

namespace Outcome

/-- An outcome; the number of bytes must not be negative. -/
def make (status : RunStatus) : Int → Except Failure Outcome
  | .ofNat bytes => .ok { status, bytes }
  | .negSucc _ => .error .negativeSize

/-- A dependency failed. -/
def failed : Outcome := { status := .failed }

/-- A precondition doesn't hold. -/
def notCompletable : Outcome := { status := .notCompletable }

/-- Whether a run succeeded. -/
def isSuccessful (o : Outcome) : Bool := o.status == .successful

end Outcome

end CatalogReplication
