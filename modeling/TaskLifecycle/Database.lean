import TaskLifecycle.Sql
import TaskLifecycle.Store

/-!
# TaskLifecycle.Database — the operations on tasks that lie in a database

The database itself is not described here: a connection is what it answers to the statements of one operation, and a pool
gives a connection or fails.  What is done before, between and after the statements is.

* `Connection`, `Pool`: what is known of a database;
* `Pool.create`, `Pool.update`, `Pool.clearReason`, `Pool.find`, `Pool.findAll`, `Pool.list`, `Pool.count`: the operations;
* `Pool.perform`: the answer to a step.
-/

namespace TaskLifecycle

namespace Sql

/-- The task with an identifier, if the organization owns it. -/
def withId (id : String) (organization : Option String) : List Clause :=
  .condition (.equals .id id) :: scope organization

/-- The tasks with one of several identifiers that the organization owns. -/
def withIds (ids : List String) (organization : Option String) : List Clause :=
  .condition (.among .id ids) :: scope organization

end Sql

/-- What a database answers to the statements of one operation. -/
structure Connection where
  rows : Sql.Statement → Except Fault (List Task)
  count : Sql.Statement → Except Fault Nat
  insert : Task → Except Fault Task
  /-- The start of a transaction. -/
  start : Except Fault Unit
  /-- A row written over the one with its identifier. -/
  save : Task → Except Fault Task
  commit : Except Fault Unit
  /-- The row with an identifier that the organization owns, if there is one, without its failure reason. -/
  clearReason : String → Option String → Moment → Except Fault (Option Task)

/-- The connections to a database. -/
structure Pool where
  acquire : Except Fault Connection

namespace Pool

open Sql (Statement)

/-- A pool that has been closed. -/
def closed : Pool :=
  ⟨.error .poolClosed⟩

variable (p : Pool)

/-! ## Reading -/

def find (id : String) (scope : Option String) : Except Fault (Option Task) := do
  let connection ← p.acquire
  let ts ← connection.rows ((Statement.start .rows).add (Sql.withId id scope))
  return ts.head?

/-- No identifiers ask for no tasks; the database is left alone then. -/
def findAll (ids : List String) (scope : Option String) : Except Fault (List Task) :=
  if ids.isEmpty then .ok [] else do
    let connection ← p.acquire
    connection.rows ((Statement.start .rows).add (Sql.withIds ids scope))

def list (maxSize : UInt32) (l : Listing) : Except Fault (List Task) := do
  Fault.ofInput (l.check maxSize)
  let connection ← p.acquire
  connection.rows ((Statement.start .rows).add (Sql.listed l))

def count (f : Filter) : Except Fault Nat := do
  let connection ← p.acquire
  connection.count ((Statement.start .count).add (Sql.filtered f))

/-! ## Writing -/

def create (id : String) (now : Moment) (d : Draft) : Except Fault Task := do
  let d ← Fault.ofInput d.prepare
  let connection ← p.acquire
  connection.insert (d.task id now)

/-- The row is locked before its status is looked at; after a refusal the transaction ends without a commit. -/
def update (id : String) (scope : Option String) (now : Moment) (c : Change) : Except Fault Task := do
  let c ← Store.prepare id c
  let connection ← p.acquire
  connection.start
  let ts ← connection.rows ((Statement.start .rows).add (Sql.withId id scope ++ [.lock]))
  match ts.head? with
  | none => .error (.notFound id)
  | some t =>
    match t.check c with
    | .error refusal => .error (.refused t.id refusal)
    | .ok _ => do
      let t ← connection.save (t.apply c now)
      connection.commit
      return t

def clearReason (id : String) (scope : Option String) (now : Moment) : Except Fault Task := do
  let connection ← p.acquire
  match ← connection.clearReason id scope now with
  | none => .error (.notFound id)
  | some t => return t

/-! ## Steps -/

/-- The answer to a step. -/
def perform (paging : Paging) (step : Step) : Except Fault Answer :=
  match step.operation with
  | .create d => (p.create step.fresh step.now d).map .task
  | .find id scope => (p.find id scope).map .found
  | .findAll ids scope => (p.findAll ids scope).map .tasks
  | .list l => (p.list paging.maxSize l).map .tasks
  | .count f => (p.count f).map .count
  | .update id scope c => (p.update id scope step.now c).map .task
  | .clearReason id scope => (p.clearReason id scope step.now).map .task

end Pool
end TaskLifecycle
