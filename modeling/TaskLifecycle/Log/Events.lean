import TaskLifecycle.Log.Filter
import TaskLifecycle.Store

/-!
# TaskLifecycle.Log.Events — what is logged of tasks

* `taskOperation`, `databaseOperation`, `failure`, `started`: events that callers report;
* `events`: those of a step on a store;
* `output`: the events that pass a filter, as lines or as objects.
-/

namespace TaskLifecycle
namespace Log

/-! ## Reports -/

/-- The field for the time of a report; the time itself is stamped by whoever writes the report down. -/
def time : String × Option Value :=
  ("timestamp", none)

/-- Where reports come from. -/
def reports : String := "taskforge_core::logging"

/-- Where the events of a store come from. -/
def storage : String := "taskforge_core::persistence::memory"

/-- Where the events of the rules for updates come from. -/
def rules : String := "taskforge_core::state_machine::task_state_machine"

/-- The start of a log. -/
def started (config : LoggingConfig) (env : Environment) : Event where
  level := .info
  target := reports
  message := "Structured logging initialized"
  fields := [
    ("environment", some (.plain (Filter.environment env))),
    ("filter", some (.plain (Filter.choice config env))),
    ("json", some (.flag config.json))]

def taskOperation (operation id : String) (organization : Option String) (status : String) (details : Option String) :
    Event where
  level := .info
  target := reports
  message := "TASK_OPERATION"
  fields := [
    ("operation", some (.plain operation)),
    ("task_id", some (.plain id)),
    ("organization_id", organization.map .quoted),
    ("status", some (.plain status)),
    ("details", details.map .quoted),
    time]

def databaseOperation (operation table : String) (record : Option String) (status : String)
    (milliseconds : Option Nat) : Event where
  level := .debug
  target := reports
  message := "DATABASE_OPERATION"
  fields := [
    ("operation", some (.plain operation)),
    ("table", some (.plain table)),
    ("record_id", record.map .quoted),
    ("status", some (.plain status)),
    ("duration_ms", milliseconds.map .number)]

def failure (component operation : String) (fault : Fault) (context : Option String) : Event where
  level := .error
  target := reports
  message := "ERROR"
  fields := [
    ("component", some (.plain component)),
    ("operation", some (.plain operation)),
    ("error", some (.plain fault.message)),
    ("context", context.map .quoted),
    time]

/-! ## Steps -/

/-- A task that was asked for is not there. -/
def missing (id : String) (scope : Option String) : Event where
  level := .info
  target := storage
  message := "Task not found"
  fields := [("task_id", some (.plain id)), ("organization_id", scope.map .quoted)]

def updated (id : String) (source target : Status) : Event where
  level := .info
  target := storage
  message := "Updated task"
  fields := [
    ("task_id", some (.plain id)),
    ("from_status", some (.plain source.word)),
    ("to_status", some (.plain target.word))]

def rejected (id : String) (source target : Status) (refusal : Refusal) : Event where
  level := .debug
  target := rules
  message := "Rejected task status update"
  fields := [
    ("task_id", some (.plain id)),
    ("from_status", some (.plain source.word)),
    ("to_status", some (.plain target.word)),
    ("code", some (.quoted refusal.code))]

/-- The events of a check of an update: a refusal, if the update has a new status. -/
def checked (id : String) (standing : Standing) (target : Option Status) : Except Refusal Unit → List Event
  | .ok _ => []
  | .error refusal =>
    match target with
    | some target => [rejected id standing.status target refusal]
    | none => []

/-- The events of an update of a task. -/
def ofUpdate (t : Task) (c : Change) (now : Moment) : List Event :=
  match t.check c with
  | .ok _ => [updated t.id t.status (t.apply c now).status]
  | .error refusal => checked t.id t.standing c.status (.error refusal)

/-- The events of a step on a store. -/
def events (s : Store) (step : Step) : List Event :=
  match step.operation with
  | .create d =>
    match d.prepare with
    | .ok d => [taskOperation "create" step.fresh d.organization Status.created.word none]
    | .error _ => []
  | .find id scope => if (s.find id scope).isNone then [missing id scope] else []
  | .update id scope c =>
    match Store.prepare id c, s.find id scope with
    | .ok c, some t => ofUpdate t c step.now
    | _, _ => []
  | .findAll _ _ | .list _ | .count _ | .clearReason _ _ => []

/-! ## Output -/

/-- What a log with a configuration writes of events: objects or lines. -/
def output (config : LoggingConfig) (env : Environment) (es : List Event) : List Json :=
  let filter := Filter.read (Filter.choice config env)
  (es.filter filter.passes).map fun e => if config.json then e.toJson else .string e.line

end Log
end TaskLifecycle
