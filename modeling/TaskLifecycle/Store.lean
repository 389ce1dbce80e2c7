import Std.Data.ExtTreeMap
import TaskLifecycle.Fault
import TaskLifecycle.Query.Listing
import TaskLifecycle.Task.Change
import TaskLifecycle.Task.Draft

/-!
# TaskLifecycle.Store — the tasks of a process

A store holds every task under its identifier.  Callers see the tasks of one organization, or of none.  The clock and the
identifier of a new task are arguments, so that a run is a function of its steps.

* `Store.create`, `Store.update`, `Store.clearReason`: operations that write;
* `Store.find`, `Store.findAll`, `Store.list`, `Store.count`: operations that read;
* `Operation`, `Step`, `Store.run`: a run as a list of steps.
-/

namespace TaskLifecycle

/-- Tasks by their identifiers. -/
abbrev Store := Std.ExtTreeMap String Task

namespace Store

def empty : Store := ∅

/-- The tasks, in the order of their identifiers. -/
def rows (s : Store) : List Task :=
  s.toList.map Prod.snd

/-! ## Reading -/

/-- The task with an identifier, if the organization owns it. -/
def find (s : Store) (id : String) (scope : Option String) : Option Task :=
  (s[id]?).filter (·.inScope scope)

/-- Texts without repetition. -/
def distinct (ids : List String) : List String :=
  ids.foldr (fun id rest => if rest.contains id then rest else id :: rest) []

/-- The tasks with one of several identifiers that the organization owns, each once. -/
def findAll (s : Store) (ids : List String) (scope : Option String) : List Task :=
  (distinct ids).filterMap (s.find · scope)

/-- The tasks of a page. -/
def list (s : Store) (maxSize : UInt32) (l : Listing) : Except Fault (List Task) :=
  match l.check maxSize with
  | .ok _ => .ok (l.answer s.rows)
  | .error fault => .error (.input fault)

/-- How many tasks meet a filter. -/
def count (s : Store) (f : Filter) : Nat :=
  s.rows.countP f.keeps

/-! ## Writing -/

/-- A new task under a new identifier. -/
def create (s : Store) (id : String) (now : Moment) (d : Draft) : Except Fault (Task × Store) :=
  match d.prepare with
  | .ok d => .ok (d.task id now, s.insert id (d.task id now))
  | .error fault => .error (.input fault)

/-- An update that may be tried on a task. -/
def prepare (id : String) (c : Change) : Except Fault Change :=
  if c.isEmpty then .error (.emptyChange id) else Fault.ofInput c.prepare

/-- A task after an update. -/
def update (s : Store) (id : String) (scope : Option String) (now : Moment) (c : Change) :
    Except Fault (Task × Store) :=
  match prepare id c with
  | .error fault => .error fault
  | .ok c =>
    match s.find id scope with
    | none => .error (.notFound id)
    | some t =>
      match t.check c with
      | .error refusal => .error (.refused t.id refusal)
      | .ok _ => .ok (t.apply c now, s.insert id (t.apply c now))

/-- A task without its failure reason. -/
def clearReason (s : Store) (id : String) (scope : Option String) (now : Moment) : Except Fault (Task × Store) :=
  match s.find id scope with
  | none => .error (.notFound id)
  | some t => .ok (t.withoutReason now, s.insert id (t.withoutReason now))

end Store

/-! ## Runs -/

/-- What is asked of a store. -/
inductive Operation where
  | create (draft : Draft)
  | find (id : String) (scope : Option String)
  | findAll (ids : List String) (scope : Option String)
  | list (listing : Listing)
  | count (filter : Filter)
  | update (id : String) (scope : Option String) (change : Change)
  | clearReason (id : String) (scope : Option String)

/-- What a store answers. -/
inductive Answer where
  | task (t : Task)
  | found (t : Option Task)
  | tasks (ts : List Task)
  | count (n : Nat)

/-- An operation with the clock reading and the new identifier that it uses. -/
structure Step where
  operation : Operation
  now : Moment
  fresh : String

namespace Store

/-- A task as the answer, with the store that holds it; after a fault the store is as before. -/
def written (s : Store) : Except Fault (Task × Store) → Except Fault Answer × Store
  | .ok (t, s) => (.ok (.task t), s)
  | .error fault => (.error fault, s)

/-- The answer to a step, and the store after it. -/
def perform (paging : Paging) (s : Store) (step : Step) : Except Fault Answer × Store :=
  match step.operation with
  | .create d => s.written (s.create step.fresh step.now d)
  | .find id scope => (.ok (.found (s.find id scope)), s)
  | .findAll ids scope => (.ok (.tasks (s.findAll ids scope)), s)
  | .list l => ((s.list paging.maxSize l).map .tasks, s)
  | .count f => (.ok (.count (s.count f)), s)
  | .update id scope c => s.written (s.update id scope step.now c)
  | .clearReason id scope => s.written (s.clearReason id scope step.now)

/-- The answers to the steps of a run, and the store after it. -/
def run (paging : Paging) (s : Store) : List Step → List (Except Fault Answer) × Store
  | [] => ([], s)
  | step :: rest =>
    let first := s.perform paging step
    let others := first.2.run paging rest
    (first.1 :: others.1, others.2)

end Store

/-! ## A store out of reach -/

namespace Operation

/-- The answer to an operation where the tasks lie in a database that cannot be reached: what is wrong with the request
is said first, and no identifiers ask for no tasks. -/
def unreachable (paging : Paging) : Operation → Except Fault Answer
  | .create d =>
    match d.prepare with
    | .ok _ => .error .poolClosed
    | .error fault => .error (.input fault)
  | .findAll [] _ => .ok (.tasks [])
  | .list l =>
    match l.check paging.maxSize with
    | .ok _ => .error .poolClosed
    | .error fault => .error (.input fault)
  | .update id _ c =>
    match Store.prepare id c with
    | .ok _ => .error .poolClosed
    | .error fault => .error fault
  | .find _ _ | .findAll _ _ | .count _ | .clearReason _ _ => .error .poolClosed

end Operation
end TaskLifecycle
