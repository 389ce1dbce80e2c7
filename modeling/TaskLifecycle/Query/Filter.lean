import TaskLifecycle.Task.Basic

/-!
# TaskLifecycle.Query.Filter — which tasks are meant

* `Filter`: the conditions; `Filter.keeps`: whether a task meets them.
-/

namespace TaskLifecycle

/-- Conditions on tasks.  Without an organization the tasks of none are meant; an empty list of statuses and an absent
workflow run or application do not restrict. -/
structure Filter where
  organization : Option String
  statuses : List Status
  workflowRun : Option String
  onlyStandalone : Bool
  application : Option String
deriving DecidableEq

namespace Filter

/-- The tasks of no organization. -/
def default : Filter :=
  ⟨none, [], none, false, none⟩

def ofOrganization (organization : String) : Filter :=
  { default with organization := some organization }

def withStatuses (f : Filter) (statuses : List Status) : Filter :=
  { f with statuses }

/-- A wanted text is absent or the one that is there. -/
def asks (wanted actual : Option String) : Bool :=
  wanted.isNone || wanted == actual

/-- Whether a task meets the conditions. -/
def keeps (f : Filter) (t : Task) : Bool :=
  t.inScope f.organization && (f.statuses.isEmpty || f.statuses.contains t.status) && asks f.workflowRun t.workflowRun &&
    (!f.onlyStandalone || t.workflowRun.isNone) && asks f.application t.application

end Filter
end TaskLifecycle
