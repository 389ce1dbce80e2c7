import Mathlib.Data.List.Induction
import TaskLifecycle.Proofs.Rules

/-!
# TaskLifecycle.Proofs.Succession — a task after several updates

Of what updates provide the last value stays; of the moments at which they lead to a status the first one does.

* `lastGiven`: the last value that some updates provide for a field; `firstEntry`: the moment of the first update that leads
  to a status of a kind.
* `Task.applyAll`: a task after some updates; `Task.applyAll_eq`: each of its fields in terms of the task and the updates.
* `Task.apply_apply`: an update that is applied twice changes nothing the second time but the moment of the last change.
* `fields_of_applyAll`: both, for every task and all updates.
-/

namespace TaskLifecycle

/-- The last value that some updates provide for a field. -/
def lastGiven {α : Type} (field : Change → Option α) (us : List (Change × Moment)) : Option α :=
  (us.filterMap fun u => field u.1).getLast?

/-- The moment of the first of some updates that leads to a status of a kind. -/
def firstEntry (kind : Status → Bool) (us : List (Change × Moment)) : Option Moment :=
  (us.find? fun u => u.1.status.any kind).map Prod.snd

section

variable (us : List (Change × Moment)) (c : Change) (now : Moment)

theorem lastGiven_concat {α : Type} (field : Change → Option α) :
    lastGiven field (us ++ [(c, now)]) = (field c).or (lastGiven field us) := by
  rw [lastGiven, List.filterMap_append, List.getLast?_append]
  congr 1
  cases hfield : field c <;> simp [hfield]

theorem firstEntry_concat (kind : Status → Bool) :
    firstEntry kind (us ++ [(c, now)]) =
      (firstEntry kind us).or (if c.status.any kind then some now else none) := by
  rw [firstEntry, List.find?_append, Option.map_or]
  congr 1
  rw [List.find?_cons]
  cases c.status.any kind <;> rfl

end

namespace Task

/-! ## One update -/

/-- A moment that is set once is the one before, if there was one. -/
theorem stamp_eq_or (enters : Bool) (now : Moment) (moment : Option Moment) :
    stamp enters now moment = moment.or (if enters then some now else none) := by
  cases moment <;> rfl

theorem ends_eq_any (status : Option Status) : ends status = status.any Status.isFinal := by
  cases status <;> rfl

theorem beq_some_eq_any (status : Option Status) (s : Status) : (status == some s) = status.any (· == s) := by
  cases status <;> rfl

theorem stamp_stamp (enters : Bool) (now later : Moment) (moment : Option Moment) :
    stamp enters later (stamp enters now moment) = stamp enters now moment := by
  cases moment <;> cases enters <;> rfl

/-- An update that is applied twice changes nothing the second time but the moment of the last change. -/
theorem apply_apply (t : Task) (c : Change) (now later : Moment) :
    (t.apply c now).apply c later = { t.apply c now with modified := later } := by
  have hgiven {α : Type} (field : Option α) (old : α) : field.getD (field.getD old) = field.getD old := by
    cases field <;> rfl
  have hkept {α : Type} (field old : Option α) : field.or (field.or old) = field.or old := by
    cases field <;> rfl
  simp only [apply, hgiven, hkept, stamp_stamp]

/-! ## Several updates -/

/-- A task after some updates, each with the moment at which it is made. -/
def applyAll (t : Task) (us : List (Change × Moment)) : Task :=
  us.foldl (fun t u => t.apply u.1 u.2) t

theorem applyAll_concat (t : Task) (us : List (Change × Moment)) (c : Change) (now : Moment) :
    t.applyAll (us ++ [(c, now)]) = (t.applyAll us).apply c now := by
  rw [applyAll, List.foldl_append]
  rfl

/-- The fields of a task after some updates. -/
theorem applyAll_eq (t : Task) (us : List (Change × Moment)) :
    t.applyAll us =
      { t with
        status := (lastGiven Change.status us).getD t.status
        extract := (lastGiven Change.extract us).or t.extract
        failureReason := (lastGiven Change.failureReason us).or t.failureReason
        webhookFailure := (lastGiven Change.webhookFailure us).or t.webhookFailure
        errors := (lastGiven Change.errors us).getD t.errors
        maxSteps := (lastGiven Change.maxSteps us).or t.maxSteps
        modified := (us.getLast?.map Prod.snd).getD t.modified
        queued := t.queued.or (firstEntry (· == .queued) us)
        started := t.started.or (firstEntry (· == .running) us)
        finished := t.finished.or (firstEntry Status.isFinal us) } := by
  induction us using List.reverseRecOn with
  | nil => simp [applyAll, lastGiven, firstEntry]
  | append_singleton us u ih =>
    obtain ⟨c, now⟩ := u
    rw [applyAll_concat, ih, apply]
    simp only [lastGiven_concat, firstEntry_concat, stamp_eq_or, ends_eq_any, beq_some_eq_any, Option.getD_or,
      Option.or_assoc, List.getLast?_concat, Option.map_some, Option.getD_some]

end Task

/-- A task after some updates and a last one: its status, its extracted information, its reasons, its errors and its number
of steps are the last that were provided, or those that it had where none was; each moment that is set once is the one that
it had, or else that of the first update to such a status, if there was one; the moment of the last change is that of the
last update; and all else is as it was.  So the last update, made again at its moment, changes nothing, and at another
moment only the moment of the last change. -/
theorem fields_of_applyAll (t : Task) (us : List (Change × Moment)) (c : Change) (now : Moment) :
    t.applyAll (us ++ [(c, now)]) =
      { t with
        status := (lastGiven Change.status (us ++ [(c, now)])).getD t.status
        extract := (lastGiven Change.extract (us ++ [(c, now)])).or t.extract
        failureReason := (lastGiven Change.failureReason (us ++ [(c, now)])).or t.failureReason
        webhookFailure := (lastGiven Change.webhookFailure (us ++ [(c, now)])).or t.webhookFailure
        errors := (lastGiven Change.errors (us ++ [(c, now)])).getD t.errors
        maxSteps := (lastGiven Change.maxSteps (us ++ [(c, now)])).or t.maxSteps
        queued := t.queued.or (firstEntry (· == .queued) (us ++ [(c, now)]))
        started := t.started.or (firstEntry (· == .running) (us ++ [(c, now)]))
        finished := t.finished.or (firstEntry Status.isFinal (us ++ [(c, now)]))
        modified := now } ∧
    t.applyAll (us ++ [(c, now), (c, now)]) = t.applyAll (us ++ [(c, now)]) ∧
    ∀ later, t.applyAll (us ++ [(c, now), (c, later)]) = { t.applyAll (us ++ [(c, now)]) with modified := later } := by
  have htwice (later : Moment) :
      t.applyAll (us ++ [(c, now), (c, later)]) = { t.applyAll (us ++ [(c, now)]) with modified := later } := by
    rw [List.append_cons, Task.applyAll_concat, Task.applyAll_concat, Task.apply_apply]
  have hmodified : (t.applyAll (us ++ [(c, now)])).modified = now := by
    rw [Task.applyAll_concat]
    rfl
  refine ⟨?_, ?_, htwice⟩
  · rw [Task.applyAll_eq, List.getLast?_concat]
    rfl
  · calc
      t.applyAll (us ++ [(c, now), (c, now)]) = { t.applyAll (us ++ [(c, now)]) with modified := now } := htwice now
      _ = { t.applyAll (us ++ [(c, now)]) with modified := (t.applyAll (us ++ [(c, now)])).modified } := by rw [hmodified]
      _ = t.applyAll (us ++ [(c, now)]) := rfl

end TaskLifecycle
