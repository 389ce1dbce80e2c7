import TaskLifecycle.Json.Form
import TaskLifecycle.Moment.Text
import TaskLifecycle.Task.Change
import TaskLifecycle.Task.Draft

/-!
# TaskLifecycle.Task.Form — JSON forms of tasks, drafts and updates

Every field is written, `null` where there is none; an optional field that is left out or `null` reads as none.

* `toJson`, `ofJson?` of `Status`, `Moment`, `Task`, `Draft`, `Change`, `Outcome`.
-/

namespace TaskLifecycle

open Json (Fields text? items?)

/-! ## Parts -/

namespace Json

def ofInt32 (n : Int32) : Json :=
  .int n.toInt

def int32? (v : Json) : Option Int32 :=
  (whole? (-2147483648) 2147483647 v).map Int32.ofInt

def ofUInt32 (n : UInt32) : Json :=
  .int n.toNat

def uint32? (v : Json) : Option UInt32 :=
  (whole? 0 (UInt32.size - 1) v).map fun n => UInt32.ofNat n.toNat

end Json

namespace Status

def toJson (s : Status) : Json :=
  .string s.word

def ofJson? : Json → Option Status :=
  Json.word? ofWord?

end Status

namespace Moment

def toJson (m : Moment) : Json :=
  .string m.text

def ofJson? (v : Json) : Option Moment :=
  (text? v).bind read?

end Moment

open Json (int32?)

/-! ## Tasks -/

namespace Task

def fieldNames : List String :=
  ["task_id", "organization_id", "title", "url", "status", "navigation_goal", "data_extraction_goal",
   "navigation_payload", "extracted_information", "extracted_information_schema", "failure_reason",
   "webhook_callback_url", "webhook_failure_reason", "workflow_run_id", "order", "retry", "max_steps_per_run",
   "errors", "application", "created_at", "modified_at", "queued_at", "started_at", "finished_at"]

def toJson (t : Task) : Json :=
  .object [
    ("application", Json.ofOption .string t.application),
    ("created_at", Moment.toJson t.created),
    ("data_extraction_goal", Json.ofOption .string t.extractionGoal),
    ("errors", .array t.errors),
    ("extracted_information", t.extract.getD .null),
    ("extracted_information_schema", t.schema.getD .null),
    ("failure_reason", Json.ofOption .string t.failureReason),
    ("finished_at", Json.ofOption Moment.toJson t.finished),
    ("max_steps_per_run", Json.ofOption Json.ofInt32 t.maxSteps),
    ("modified_at", Moment.toJson t.modified),
    ("navigation_goal", Json.ofOption .string t.navigationGoal),
    ("navigation_payload", t.payload.getD .null),
    ("order", Json.ofOption Json.ofInt32 t.order),
    ("organization_id", Json.ofOption .string t.organization),
    ("queued_at", Json.ofOption Moment.toJson t.queued),
    ("retry", Json.ofOption Json.ofInt32 t.retry),
    ("started_at", Json.ofOption Moment.toJson t.started),
    ("status", Status.toJson t.status),
    ("task_id", .string t.id),
    ("title", Json.ofOption .string t.title),
    ("url", .string t.url),
    ("webhook_callback_url", Json.ofOption .string t.webhook),
    ("webhook_failure_reason", Json.ofOption .string t.webhookFailure),
    ("workflow_run_id", Json.ofOption .string t.workflowRun)]

def ofJson? (v : Json) : Option Task := do
  let fields ← Fields.ofJson? fieldNames v
  let id ← fields.required? text? "task_id"
  let organization ← fields.optional? text? "organization_id"
  let title ← fields.optional? text? "title"
  let url ← fields.required? text? "url"
  let status ← fields.required? Status.ofJson? "status"
  let navigationGoal ← fields.optional? text? "navigation_goal"
  let extractionGoal ← fields.optional? text? "data_extraction_goal"
  let payload ← fields.optional? some "navigation_payload"
  let extract ← fields.optional? some "extracted_information"
  let schema ← fields.optional? some "extracted_information_schema"
  let failureReason ← fields.optional? text? "failure_reason"
  let webhook ← fields.optional? text? "webhook_callback_url"
  let webhookFailure ← fields.optional? text? "webhook_failure_reason"
  let workflowRun ← fields.optional? text? "workflow_run_id"
  let order ← fields.optional? int32? "order"
  let retry ← fields.optional? int32? "retry"
  let maxSteps ← fields.optional? int32? "max_steps_per_run"
  let errors ← fields.required? items? "errors"
  let application ← fields.optional? text? "application"
  let created ← fields.required? Moment.ofJson? "created_at"
  let modified ← fields.required? Moment.ofJson? "modified_at"
  let queued ← fields.optional? Moment.ofJson? "queued_at"
  let started ← fields.optional? Moment.ofJson? "started_at"
  let finished ← fields.optional? Moment.ofJson? "finished_at"
  return ⟨id, organization, title, url, status, navigationGoal, extractionGoal, payload, extract, schema,
    failureReason, webhook, webhookFailure, workflowRun, order, retry, maxSteps, errors, application, created,
    modified, queued, started, finished⟩

end Task

namespace Draft

def fieldNames : List String :=
  ["organization_id", "title", "url", "navigation_goal", "data_extraction_goal", "navigation_payload",
   "extracted_information_schema", "webhook_callback_url", "workflow_run_id", "order", "retry", "max_steps_per_run",
   "application"]

def toJson (d : Draft) : Json :=
  .object [
    ("application", Json.ofOption .string d.application),
    ("data_extraction_goal", Json.ofOption .string d.extractionGoal),
    ("extracted_information_schema", d.schema.getD .null),
    ("max_steps_per_run", Json.ofOption Json.ofInt32 d.maxSteps),
    ("navigation_goal", Json.ofOption .string d.navigationGoal),
    ("navigation_payload", d.payload.getD .null),
    ("order", Json.ofOption Json.ofInt32 d.order),
    ("organization_id", Json.ofOption .string d.organization),
    ("retry", Json.ofOption Json.ofInt32 d.retry),
    ("title", Json.ofOption .string d.title),
    ("url", .string d.url),
    ("webhook_callback_url", Json.ofOption .string d.webhook),
    ("workflow_run_id", Json.ofOption .string d.workflowRun)]

def ofJson? (v : Json) : Option Draft := do
  let fields ← Fields.ofJson? fieldNames v
  let organization ← fields.optional? text? "organization_id"
  let title ← fields.optional? text? "title"
  let url ← fields.required? text? "url"
  let navigationGoal ← fields.optional? text? "navigation_goal"
  let extractionGoal ← fields.optional? text? "data_extraction_goal"
  let payload ← fields.optional? some "navigation_payload"
  let schema ← fields.optional? some "extracted_information_schema"
  let webhook ← fields.optional? text? "webhook_callback_url"
  let workflowRun ← fields.optional? text? "workflow_run_id"
  let order ← fields.optional? int32? "order"
  let retry ← fields.optional? int32? "retry"
  let maxSteps ← fields.optional? int32? "max_steps_per_run"
  let application ← fields.optional? text? "application"
  return ⟨organization, title, url, navigationGoal, extractionGoal, payload, schema, webhook, workflowRun, order,
    retry, maxSteps, application⟩

end Draft

namespace Change

def fieldNames : List String :=
  ["status", "extracted_information", "failure_reason", "webhook_failure_reason", "errors", "max_steps_per_run"]

def toJson (c : Change) : Json :=
  .object [
    ("errors", Json.ofOption .array c.errors),
    ("extracted_information", c.extract.getD .null),
    ("failure_reason", Json.ofOption .string c.failureReason),
    ("max_steps_per_run", Json.ofOption Json.ofInt32 c.maxSteps),
    ("status", Json.ofOption Status.toJson c.status),
    ("webhook_failure_reason", Json.ofOption .string c.webhookFailure)]

def ofJson? (v : Json) : Option Change := do
  let fields ← Fields.ofJson? fieldNames v
  let status ← fields.optional? Status.ofJson? "status"
  let extract ← fields.optional? some "extracted_information"
  let failureReason ← fields.optional? text? "failure_reason"
  let webhookFailure ← fields.optional? text? "webhook_failure_reason"
  let errors ← fields.optional? items? "errors"
  let maxSteps ← fields.optional? int32? "max_steps_per_run"
  return ⟨status, extract, failureReason, webhookFailure, errors, maxSteps⟩

end Change

namespace Outcome

def toJson (o : Outcome) : Json :=
  .object [
    ("errors", .array o.errors),
    ("extracted_information", o.extract.getD .null),
    ("failure_reason", Json.ofOption .string o.failureReason),
    ("status", Status.toJson o.status),
    ("task_id", .string o.id)]

end Outcome

end TaskLifecycle
