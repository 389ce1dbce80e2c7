import TaskLifecycle.Query.Listing
import TaskLifecycle.Task.Form

/-!
# TaskLifecycle.Query.Form — JSON forms of filters and listings

* `toJson`, `ofJson?` of `Filter`, `OrderKey`, `Direction`, `Listing`; `Paging.toJson`.
-/

namespace TaskLifecycle

open Json (Fields text? flag? list? uint32?)

namespace Filter

def fieldNames : List String :=
  ["organization_id", "statuses", "workflow_run_id", "only_standalone_tasks", "application"]

def toJson (f : Filter) : Json :=
  .object [
    ("application", Json.ofOption .string f.application),
    ("only_standalone_tasks", .bool f.onlyStandalone),
    ("organization_id", Json.ofOption .string f.organization),
    ("statuses", .array (f.statuses.map Status.toJson)),
    ("workflow_run_id", Json.ofOption .string f.workflowRun)]

def ofJson? (v : Json) : Option Filter := do
  let fields ← Fields.ofJson? fieldNames v
  let organization ← fields.optional? text? "organization_id"
  let statuses ← fields.required? (list? Status.ofJson?) "statuses"
  let workflowRun ← fields.optional? text? "workflow_run_id"
  let onlyStandalone ← fields.required? flag? "only_standalone_tasks"
  let application ← fields.optional? text? "application"
  return ⟨organization, statuses, workflowRun, onlyStandalone, application⟩

end Filter

namespace OrderKey

def toJson (key : OrderKey) : Json :=
  .string key.word

def ofJson? : Json → Option OrderKey :=
  Json.word? ofWord?

end OrderKey

namespace Direction

def toJson (direction : Direction) : Json :=
  .string direction.word

def ofJson? : Json → Option Direction :=
  Json.word? ofWord?

end Direction

namespace Listing

def fieldNames : List String :=
  ["filter", "page", "page_size", "order_by", "direction"]

def toJson (l : Listing) : Json :=
  .object [
    ("direction", Direction.toJson l.direction),
    ("filter", l.filter.toJson),
    ("order_by", OrderKey.toJson l.key),
    ("page", Json.ofUInt32 l.page),
    ("page_size", Json.ofUInt32 l.size)]

def ofJson? (v : Json) : Option Listing := do
  let fields ← Fields.ofJson? fieldNames v
  let filter ← fields.required? Filter.ofJson? "filter"
  let page ← fields.required? uint32? "page"
  let size ← fields.required? uint32? "page_size"
  let key ← fields.required? OrderKey.ofJson? "order_by"
  let direction ← fields.required? Direction.ofJson? "direction"
  return ⟨filter, page, size, key, direction⟩

end Listing

namespace Paging

def toJson (p : Paging) : Json :=
  .object [
    ("default_page_size", Json.ofUInt32 p.defaultSize),
    ("max_page_size", Json.ofUInt32 p.maxSize)]

end Paging

end TaskLifecycle
