import TaskLifecycle.Input
import TaskLifecycle.Transition

/-!
# TaskLifecycle.Fault — why an operation on tasks fails

* `Fault`: the causes; `Fault.message`: their texts.
-/

namespace TaskLifecycle

/-- Why an operation on tasks fails. -/
inductive Fault where
  | input (fault : Input.Fault)
  | notFound (id : String)
  | emptyChange (id : String)
  | refused (id : String) (refusal : Refusal)
  | poolClosed
deriving DecidableEq

namespace Fault

/-- What a database answers once its connections have been closed. -/
def poolText : String :=
  "attempted to acquire a connection on a closed pool"

def message : Fault → String
  | .input fault => "Invalid input: " ++ fault.message
  | .notFound id => "Task not found: " ++ id
  | .emptyChange id =>
    "At least one of status, extracted_information, failure_reason, errors, max_steps_per_run or " ++
      "webhook_failure_reason must be provided to update task " ++ id
  | .refused id refusal => refusal.message id
  | .poolClosed => "Database error: " ++ poolText

/-- Whether the rules for updates are the cause. -/
def isRefusal : Fault → Bool
  | .refused _ _ => true
  | _ => false

def isNotFound : Fault → Bool
  | .notFound _ => true
  | _ => false

/-- A checked input, or why it is refused. -/
def ofInput {α : Type} : Except Input.Fault α → Except Fault α
  | .ok a => .ok a
  | .error fault => .error (.input fault)

end Fault
end TaskLifecycle
