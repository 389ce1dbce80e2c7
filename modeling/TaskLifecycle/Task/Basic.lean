import TaskLifecycle.Json.Basic
import TaskLifecycle.Moment.Basic
import TaskLifecycle.Transition

/-!
# TaskLifecycle.Task.Basic — tasks

A task is one piece of work in a browser: where it starts, what it is to reach, how far it has come.

* `Task`: a task as it is stored;
* `Task.inScope`: whose it is; `Task.standing`: what bears on its updates;
* `Outcome`: what a caller sees of a task that has ended.
-/

namespace TaskLifecycle

/-- A task as it is stored. -/
structure Task where
  id : String
  organization : Option String
  title : Option String
  url : String
  status : Status
  navigationGoal : Option String
  extractionGoal : Option String
  payload : Option Json
  extract : Option Json
  schema : Option Json
  failureReason : Option String
  webhook : Option String
  webhookFailure : Option String
  workflowRun : Option String
  order : Option Int32
  retry : Option Int32
  maxSteps : Option Int32
  errors : List Json
  application : Option String
  created : Moment
  modified : Moment
  queued : Option Moment
  started : Option Moment
  finished : Option Moment

/-- The result of a task. -/
structure Outcome where
  id : String
  status : Status
  extract : Option Json
  failureReason : Option String
  errors : List Json

namespace Task

def isFinal (t : Task) : Bool :=
  t.status.isFinal

/-- Whether the task belongs to an organization, or to none. -/
def inScope (t : Task) (scope : Option String) : Bool :=
  t.organization == scope

def standing (t : Task) : Standing :=
  ⟨t.status, t.failureReason, t.extractionGoal⟩

def outcome (t : Task) : Outcome :=
  ⟨t.id, t.status, t.extract, t.failureReason, t.errors⟩

/-- The task without its failure reason, so that a further run can record one. -/
def withoutReason (t : Task) (now : Moment) : Task :=
  { t with failureReason := none, modified := now }

end Task
end TaskLifecycle
