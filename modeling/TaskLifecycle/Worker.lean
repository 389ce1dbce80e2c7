import TaskLifecycle.Identifier
import TaskLifecycle.Store

/-!
# TaskLifecycle.Worker — a store whose new tasks are numbered by its process

* `Request`: an operation with what it reads from the clock;
* `Worker`: the tasks of a process and the source of their identifiers; `Worker.launch`: both as the process starts;
* `Worker.run`: a run as a list of requests.
-/

namespace TaskLifecycle

/-- An operation with the clock readings that it uses: the moment that it writes, and the seconds since 1970 that go
into the identifier of a new task. -/
structure Request where
  operation : Operation
  now : Moment
  seconds : Nat

/-- Whether an operation takes a new identifier: a draft gets one as soon as it is prepared. -/
def Operation.draws : Operation → Bool
  | .create d =>
    match d.prepare with
    | .ok _ => true
    | .error _ => false
  | .find _ _ | .findAll _ _ | .list _ | .count _ | .update _ _ _ | .clearReason _ _ => false

/-- The tasks of a process and the source of their identifiers. -/
structure Worker where
  source : Identifier.Source
  store : Store

namespace Worker

/-- A worker that has given out no identifier and holds no task. -/
def launch (worker start : Nat) : Worker where
  source := { worker, start, count := 0 }
  store := Store.empty

/-- A request as a step, with the identifier that the worker would give to a new task. -/
def step (w : Worker) (r : Request) : Step where
  operation := r.operation
  now := r.now
  fresh := Identifier.text .task (w.source.next r.seconds).1

/-- The answer to a request, and the worker after it. -/
def perform (paging : Paging) (w : Worker) (r : Request) : Except Fault Answer × Worker :=
  let written := w.store.perform paging (w.step r)
  let source := if r.operation.draws then (w.source.next r.seconds).2 else w.source
  (written.1, { source, store := written.2 })

/-- The answers to the requests of a run, and the worker after it. -/
def run (paging : Paging) (w : Worker) : List Request → List (Except Fault Answer) × Worker
  | [] => ([], w)
  | r :: rest =>
    let first := w.perform paging r
    let others := first.2.run paging rest
    (first.1 :: others.1, others.2)

end Worker
end TaskLifecycle
