import TaskLifecycle.Query.Listing

/-!
# TaskLifecycle.Sql — statements on the table of tasks

A statement is what it selects and a list of clauses.  Its text has a placeholder for every value; the values themselves
are its bindings, in the order of the placeholders.

* `Clause`, `Statement`; `Clause.parts`: a clause as words and values; `Statement.text`, `Statement.bindings`;
* `filtered`, `listed`: the clauses for a filter and for a page;
* `Extension`, `Statement.extend`: what a caller may add to a statement, step by step.
-/

namespace TaskLifecycle
namespace Sql

/-! ## Clauses -/

/-- The columns that conditions are about. -/
inductive Column where
  | id
  | organization
  | status
  | workflowRun
  | application
deriving DecidableEq, Repr

def Column.name : Column → String
  | .id => "task_id"
  | .organization => "organization_id"
  | .status => "status"
  | .workflowRun => "workflow_run_id"
  | .application => "application"

/-- A condition on a row. -/
inductive Condition where
  | equals (column : Column) (text : String)
  | absent (column : Column)
  | among (column : Column) (texts : List String)
deriving DecidableEq, Repr

/-- What a statement consists of behind its start. -/
inductive Clause where
  | condition (c : Condition)
  | order (key : OrderKey) (direction : Direction)
  | page (limit offset : Int)
  | lock
deriving DecidableEq, Repr

/-- A value bound to a placeholder. -/
inductive Value where
  | text (s : String)
  | texts (l : List String)
  | number (n : Int)
deriving DecidableEq, Repr

/-- A piece of a statement: words, or the place of a value. -/
inductive Part where
  | words (s : String)
  | value (v : Value)
deriving DecidableEq, Repr

def directionWord : Direction → String
  | .ascending => "ASC"
  | .descending => "DESC"

namespace Condition

def parts : Condition → List Part
  | .equals column text => [.words (column.name ++ " = "), .value (.text text)]
  | .absent column => [.words (column.name ++ " IS NULL")]
  | .among column texts => [.words (column.name ++ " = ANY("), .value (.texts texts), .words ")"]

end Condition

namespace Clause

def isCondition : Clause → Bool
  | .condition _ => true
  | _ => false

/-- The pieces of a clause; the first condition of a statement follows `WHERE`, every later one `AND`. -/
def parts (hasCondition : Bool) : Clause → List Part
  | .condition c => .words (if hasCondition then " AND " else " WHERE ") :: c.parts
  | .order key direction =>
    [.words (" ORDER BY " ++ key.word ++ " " ++ directionWord direction ++ ", task_id " ++ directionWord direction)]
  | .page limit offset =>
    [.words " LIMIT ", .value (.number limit), .words " OFFSET ", .value (.number offset)]
  | .lock => [.words " FOR UPDATE"]

/-- The pieces of several clauses. -/
def allParts : Bool → List Clause → List Part
  | _, [] => []
  | hasCondition, c :: rest => c.parts hasCondition ++ allParts (hasCondition || c.isCondition) rest

end Clause

/-! ## Statements -/

/-- What a statement selects. -/
inductive Selection where
  | rows
  | count
deriving DecidableEq, Repr

/-- The columns of a row. -/
def columns : List String :=
  ["task_id", "organization_id", "title", "url", "status", "navigation_goal", "data_extraction_goal",
   "navigation_payload", "extracted_information", "extracted_information_schema", "failure_reason",
   "webhook_callback_url", "webhook_failure_reason", "workflow_run_id", "task_order", "retry", "max_steps_per_run",
   "errors", "application", "created_at", "modified_at", "queued_at", "started_at", "finished_at"]

def Selection.text : Selection → String
  | .rows => "SELECT " ++ String.intercalate ", " columns ++ " FROM tasks"
  | .count => "SELECT COUNT(*) FROM tasks"

/-- The text of pieces behind `bound` values: the values are numbered from left to right. -/
def render (bound : Nat) : List Part → String
  | [] => ""
  | .words s :: rest => s ++ render bound rest
  | .value _ :: rest => "$" ++ Decimal.text (bound + 1) ++ render (bound + 1) rest

/-- The values among pieces. -/
def values : List Part → List Value
  | [] => []
  | .words _ :: rest => values rest
  | .value v :: rest => v :: values rest

structure Statement where
  selection : Selection
  clauses : List Clause
deriving DecidableEq, Repr

namespace Statement

/-- A statement without clauses. -/
def start (selection : Selection) : Statement :=
  ⟨selection, []⟩

def parts (s : Statement) : List Part :=
  .words s.selection.text :: Clause.allParts false s.clauses

def text (s : Statement) : String :=
  render 0 s.parts

/-- The values of the placeholders. -/
def bindings (s : Statement) : List Value :=
  values s.parts

/-- The statement with further clauses. -/
def add (s : Statement) (clauses : List Clause) : Statement :=
  { s with clauses := s.clauses ++ clauses }

end Statement

/-! ## Clauses for tasks -/

/-- The tasks of an organization, or of none. -/
def scope (organization : Option String) : List Clause :=
  match organization with
  | some organization => [.condition (.equals .organization organization)]
  | none => [.condition (.absent .organization)]

/-- The tasks in one of several statuses; no statuses do not restrict. -/
def inStatuses (statuses : List Status) : List Clause :=
  if statuses.isEmpty then [] else [.condition (.among .status (statuses.map Status.word))]

def withText (column : Column) (text : Option String) : List Clause :=
  match text with
  | some text => [.condition (.equals column text)]
  | none => []

/-- The tasks that belong to no workflow run. -/
def standalone : List Clause :=
  [.condition (.absent .workflowRun)]

/-- The tasks that meet a filter. -/
def filtered (f : Filter) : List Clause :=
  scope f.organization ++ inStatuses f.statuses ++ withText .workflowRun f.workflowRun ++
    (if f.onlyStandalone then standalone else []) ++ withText .application f.application

/-- The greatest number that a placeholder takes. -/
def maxNumber : Nat := Nat.pow 2 63 - 1

/-- The page of a listing. -/
def listed (l : Listing) : List Clause :=
  filtered l.filter ++ [.order l.key l.direction, .page l.size.toNat (min l.offset maxNumber)]

/-! ## Extensions -/

/-- What a caller may add to a statement. -/
inductive Extension where
  | ofOrganization (organization : Option String)
  | withId (id : String)
  | withIds (ids : List String)
  | inStatuses (statuses : List Status)
  | inWorkflowRun (run : String)
  | standalone
  | forApplication (application : String)
  | filtered (filter : Filter)
  | ordered (key : OrderKey) (direction : Direction)
  | paged (limit offset : Int)
  | listed (listing : Listing)
  | locked
deriving DecidableEq

def Extension.clauses : Extension → List Clause
  | .ofOrganization organization => scope organization
  | .withId id => [.condition (.equals .id id)]
  | .withIds ids => [.condition (.among .id ids)]
  | .inStatuses statuses => Sql.inStatuses statuses
  | .inWorkflowRun run => withText .workflowRun (some run)
  | .standalone => Sql.standalone
  | .forApplication application => withText .application (some application)
  | .filtered filter => Sql.filtered filter
  | .ordered key direction => [.order key direction]
  | .paged limit offset => [.page limit offset]
  | .listed listing => Sql.listed listing
  | .locked => [.lock]

namespace Statement

def extend (s : Statement) (e : Extension) : Statement :=
  s.add e.clauses

/-- A statement to which several things have been added, one after another. -/
def build (selection : Selection) (es : List Extension) : Statement :=
  es.foldl extend (start selection)

end Statement

end Sql
end TaskLifecycle
