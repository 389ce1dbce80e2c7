import TaskLifecycle.Input
import TaskLifecycle.Json.Clean
import TaskLifecycle.Task.Basic

/-!
# TaskLifecycle.Task.Draft — tasks to be created

* `Draft`: what a caller says of a new task;
* `Draft.prepare`: its addresses in normal form and its JSON checked and cleaned; `Draft.task`: the task it makes.
-/

namespace TaskLifecycle

/-- A task before it is created. -/
structure Draft where
  organization : Option String
  title : Option String
  url : String
  navigationGoal : Option String
  extractionGoal : Option String
  payload : Option Json
  schema : Option Json
  webhook : Option String
  workflowRun : Option String
  order : Option Int32
  retry : Option Int32
  maxSteps : Option Int32
  application : Option String

namespace Draft

/-- A draft that names only where the task starts. -/
def ofUrl (url : String) : Draft :=
  ⟨none, none, url, none, none, none, none, none, none, none, none, none, none⟩

/-- An optional address in normal form. -/
def webhookUrl : Option String → Except Input.Fault (Option String)
  | none => .ok none
  | some raw => (Input.url "webhook_callback_url" raw).map some

/-- The draft as it may be stored, or the first fault: in the address of the task, in that for callbacks, in the payload,
in the schema, in the number of steps. -/
def prepare (d : Draft) : Except Input.Fault Draft := do
  let url ← Input.url "url" d.url
  let webhook ← webhookUrl d.webhook
  Input.payload? "navigation_payload" d.payload
  Input.payload? "extracted_information_schema" d.schema
  Input.steps d.maxSteps
  return { d with url, webhook, payload := d.payload.map Json.clean, schema := d.schema.map Json.clean }

/-- The task that a draft makes; it starts `created`. -/
def task (d : Draft) (id : String) (now : Moment) : Task where
  id
  organization := d.organization
  title := d.title
  url := d.url
  status := .created
  navigationGoal := d.navigationGoal
  extractionGoal := d.extractionGoal
  payload := d.payload
  extract := none
  schema := d.schema
  failureReason := none
  webhook := d.webhook
  webhookFailure := none
  workflowRun := d.workflowRun
  order := d.order
  retry := d.retry
  maxSteps := d.maxSteps
  errors := []
  application := d.application
  created := now
  modified := now
  queued := none
  started := none
  finished := none

end Draft
end TaskLifecycle
