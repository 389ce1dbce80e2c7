import TaskLifecycle.Status

/-!
# TaskLifecycle.Transition — which updates of a task are legal

An update is checked against what the task holds: first the table of statuses, then the fields that the new status asks
for or forbids, last that a failure reason is written once.

* `Refusal`: why an update is refused, with its text and its code;
* `Standing.checkUpdate`: an update with a new status; `Standing.checkReason`: one without.
-/

namespace TaskLifecycle

/-- Why the table of statuses refuses an update. -/
inductive Barrier where
  | alreadyCanceled (target : Status)
  | alreadyTimedOut
  | notAllowed (source target : Status)
deriving DecidableEq, Repr

namespace Barrier

def message : Barrier → String
  | .alreadyCanceled target => "task is already canceled, cannot update to " ++ target.word
  | .alreadyTimedOut => "task has already timed out"
  | .notAllowed source target => source.word ++ " -> " ++ target.word ++ " is not allowed"

/-- The barrier between a status and one that may not follow it. -/
def between (source target : Status) : Barrier :=
  match source with
  | .canceled => .alreadyCanceled target
  | .timedOut => .alreadyTimedOut
  | _ => .notAllowed source target

end Barrier

/-- Why an update is refused. -/
inductive Refusal where
  | transition (barrier : Barrier)
  | missingReason (status : Status)
  | missingExtract (status : Status)
  | unexpectedExtract (status : Status)
  | reasonAlreadySet
deriving DecidableEq, Repr

namespace Refusal

/-- The text of a refusal for the task `id`. -/
def message (id : String) : Refusal → String
  | .transition barrier => "Invalid status transition for task " ++ id ++ ": " ++ barrier.message
  | .missingReason status => "Status " ++ status.word ++ " requires a failure reason (task " ++ id ++ ")"
  | .missingExtract status => "Status " ++ status.word ++ " requires extracted information (task " ++ id ++ ")"
  | .unexpectedExtract status => "Status " ++ status.word ++ " cannot carry extracted information (task " ++ id ++ ")"
  | .reasonAlreadySet => "Failure reason is already set and cannot be overridden (task " ++ id ++ ")"

/-- A code that stays when texts change. -/
def code : Refusal → String
  | .transition (.alreadyCanceled _) => "task_already_canceled"
  | .transition .alreadyTimedOut => "task_already_timed_out"
  | .transition (.notAllowed _ _) => "invalid_task_status_transition"
  | .missingReason _ => "missing_failure_reason"
  | .missingExtract _ => "missing_extracted_information"
  | .unexpectedExtract _ => "unexpected_extracted_information"
  | .reasonAlreadySet => "failure_reason_already_set"

def isTransition : Refusal → Bool
  | .transition _ => true
  | _ => false

end Refusal

/-- What a task holds that bears on an update. -/
structure Standing where
  status : Status
  failureReason : Option String
  extractionGoal : Option String
deriving DecidableEq, Repr

namespace Standing

/-- A goal that asks for extracted information: one that is there and not empty. -/
def hasGoal (s : Standing) : Bool :=
  match s.extractionGoal with
  | none => false
  | some goal => goal ≠ ""

/-- A failure reason is written once. -/
def checkReason (s : Standing) (reason : Option String) : Except Refusal Unit :=
  if s.failureReason.isSome ∧ reason.isSome then .error .reasonAlreadySet else .ok ()

/-- Whether the task may move to `target` with the given extracted information and failure reason. -/
def checkUpdate {α : Type} (s : Standing) (target : Status) (extract : Option α) (reason : Option String) :
    Except Refusal Unit :=
  if ¬ s.status.canBecome target then .error (.transition (.between s.status target))
  else if target.needsReason ∧ reason.isNone then .error (.missingReason target)
  else if target.needsExtract ∧ s.hasGoal ∧ extract.isNone then .error (.missingExtract target)
  else if target.forbidsExtract ∧ extract.isSome then .error (.unexpectedExtract target)
  else s.checkReason reason

end Standing
end TaskLifecycle
