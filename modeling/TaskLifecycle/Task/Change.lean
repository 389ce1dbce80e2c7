import TaskLifecycle.Input
import TaskLifecycle.Json.Clean
import TaskLifecycle.Task.Basic

/-!
# TaskLifecycle.Task.Change — updates of tasks

* `Change`: what an update provides; what it leaves out stays as it is;
* `Change.prepare`: its JSON checked and cleaned; `Task.check`: whether a task takes it; `Task.apply`: the task after it.
-/

namespace TaskLifecycle

/-- What an update provides. -/
structure Change where
  status : Option Status
  extract : Option Json
  failureReason : Option String
  webhookFailure : Option String
  errors : Option (List Json)
  maxSteps : Option Int32

namespace Change

/-- The update that provides nothing. -/
def empty : Change :=
  ⟨none, none, none, none, none, none⟩

/-- An update to a status, with a failure reason and extracted information where it has them. -/
def toStatus (status : Status) (reason : Option String) (extract : Option Json) : Change :=
  { empty with status := some status, failureReason := reason, extract }

def isEmpty (c : Change) : Bool :=
  c.status.isNone && c.extract.isNone && c.failureReason.isNone && c.webhookFailure.isNone && c.errors.isNone &&
    c.maxSteps.isNone

/-- Entries of a list of errors, if an update provides one. -/
def entries? : Option (List Json) → Except Input.Fault Unit
  | none => .ok ()
  | some errors => Input.entries 0 errors

/-- The update as it may be stored, or the first fault: in the extracted information, in the errors, in the number of
steps. -/
def prepare (c : Change) : Except Input.Fault Change := do
  Input.payload? "extracted_information" c.extract
  entries? c.errors
  Input.steps c.maxSteps
  return { c with extract := c.extract.map Json.clean, errors := c.errors.map (·.map Json.clean) }

end Change

namespace Task

/-- Whether a task takes an update. -/
def check (t : Task) (c : Change) : Except Refusal Unit :=
  match c.status with
  | some status => t.standing.checkUpdate status c.extract c.failureReason
  | none => t.standing.checkReason c.failureReason

/-- A moment that is set once: when the task enters a state for the first time. -/
def stamp (enters : Bool) (now : Moment) : Option Moment → Option Moment
  | some moment => some moment
  | none => if enters then some now else none

/-- Whether an update leads to a final status. -/
def ends : Option Status → Bool
  | some status => status.isFinal
  | none => false

/-- The task after an update. -/
def apply (t : Task) (c : Change) (now : Moment) : Task :=
  { t with
    status := c.status.getD t.status
    extract := c.extract.or t.extract
    failureReason := c.failureReason.or t.failureReason
    webhookFailure := c.webhookFailure.or t.webhookFailure
    errors := c.errors.getD t.errors
    maxSteps := c.maxSteps.or t.maxSteps
    modified := now
    queued := stamp (c.status == some .queued) now t.queued
    started := stamp (c.status == some .running) now t.started
    finished := stamp (ends c.status) now t.finished }

end Task
end TaskLifecycle
