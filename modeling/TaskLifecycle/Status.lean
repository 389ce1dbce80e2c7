/-!
# TaskLifecycle.Status — the statuses of a task

A task starts `created`, is queued and run, and ends in one of five final statuses.

* `Status.next`: the table of what may follow; the only way out of a final status leads from `canceled` to `completed`,
  for a cancel that came while the run was finishing;
* `needsReason`, `needsExtract`, `forbidsExtract`: what an update to a status must bring, and what it must not.
-/

namespace TaskLifecycle

inductive Status where
  | created
  | queued
  | running
  | timedOut
  | failed
  | terminated
  | completed
  | canceled
deriving DecidableEq, Repr

namespace Status

/-- Every status, in the order of the table. -/
def all : List Status :=
  [.created, .queued, .running, .timedOut, .failed, .terminated, .completed, .canceled]

/-- The word for a status. -/
def word : Status → String
  | .created => "created"
  | .queued => "queued"
  | .running => "running"
  | .timedOut => "timed_out"
  | .failed => "failed"
  | .terminated => "terminated"
  | .completed => "completed"
  | .canceled => "canceled"

/-- The status that a word names. -/
def ofWord? : String → Option Status
  | "created" => some .created
  | "queued" => some .queued
  | "running" => some .running
  | "timed_out" => some .timedOut
  | "failed" => some .failed
  | "terminated" => some .terminated
  | "completed" => some .completed
  | "canceled" => some .canceled
  | _ => none

/-- What is said of a word that names no status. -/
def unknownWord (s : String) : String :=
  "Invalid task status: " ++ s

/-- A status with which a task leaves scheduling. -/
def isFinal : Status → Bool
  | .timedOut | .failed | .terminated | .completed | .canceled => true
  | .created | .queued | .running => false

/-- The statuses that one update may lead to. -/
def next : Status → List Status
  | .created => [.queued, .running, .timedOut, .failed, .canceled]
  | .queued => [.running, .timedOut, .failed, .canceled]
  | .running => [.completed, .failed, .terminated, .timedOut, .canceled]
  | .canceled => [.completed]
  | .timedOut | .failed | .terminated | .completed => []

def canBecome (s t : Status) : Bool :=
  s.next.contains t

/-- An update to this status brings a failure reason. -/
def needsReason : Status → Bool
  | .failed | .terminated => true
  | _ => false

/-- An update to this status brings extracted information, if the task has an extraction goal. -/
def needsExtract : Status → Bool
  | .completed => true
  | _ => false

/-- An update to this status brings no extracted information. -/
def forbidsExtract : Status → Bool
  | .created | .queued | .running | .failed | .terminated => true
  | .timedOut | .completed | .canceled => false

theorem ofWord?_word (s : Status) : ofWord? s.word = some s := by
  cases s <;> rfl

theorem mem_all (s : Status) : s ∈ all := by
  cases s <;> decide

theorem not_canBecome_self (s : Status) : s.canBecome s = false := by
  cases s <;> rfl

end Status
end TaskLifecycle
