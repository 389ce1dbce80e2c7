import TaskLifecycle.Proofs.Browsing
import TaskLifecycle.Proofs.Timeline

/-!
# TaskLifecycle.Proofs.Frame — what writing leaves alone

* `Step.target`: the identifier that a step is about, where it is about one task; `Store.Effect.getElem?_of_target`: a
  step leaves every other row as it is.
* `Store.Effect.created`, `Store.Effect.changed`, `Store.Effect.cleared`: what a step that succeeds has written.
* `frame_of_run`: what a task has from its creation stays in every run; an update without a status leaves the status and
  the moments of the stages; a clear leaves all but the reason and the moment of the last change.
-/

namespace TaskLifecycle

/-- The identifier that a step is about; none if the step is about tasks that it does not name one by one. -/
def Step.target (step : Step) : Option String :=
  match step.operation with
  | .create _ => some step.fresh
  | .find id _ | .update id _ _ | .clearReason id _ => some id
  | .findAll _ _ | .list _ | .count _ => none

namespace Task

/-- An update without a status leaves the status and the moments of the stages. -/
theorem stages_apply_none {c : Change} (h : c.status = none) (t : Task) (now : Moment) :
    (t.apply c now).status = t.status ∧ (t.apply c now).queued = t.queued ∧ (t.apply c now).started = t.started ∧
      (t.apply c now).finished = t.finished := by
  have hqueued : (c.status == some Status.queued) = false := by rw [h]; rfl
  have hrunning : (c.status == some Status.running) = false := by rw [h]; rfl
  have hends : ends c.status = false := by rw [h]; rfl
  refine ⟨status_apply_none h, ?_, ?_, ?_⟩
  · rw [apply, hqueued, stamp_false]
  · rw [apply, hrunning, stamp_false]
  · rw [apply, hends, stamp_false]

end Task

namespace Store

variable {s s' : Store} {step : Step} {id : String} {scope : Option String} {t : Task}

/-! ## One step -/

/-- A step leaves every row but that of its target as it is. -/
theorem Effect.getElem?_of_target {answer : Except Fault Answer} (he : s.Effect step answer s')
    (h : step.target ≠ some id) : s'[id]? = s[id]? := by
  have other : ∀ key t, step.target = some key → (s.insert key t)[id]? = s[id]? := by
    intro key t hkey
    rw [getElem?_insert, if_neg]
    rintro rfl
    exact h hkey
  cases he with
  | reads | fails => rfl
  | creates op | changes op | clears op => exact other _ _ (by rw [Step.target, op])

/-- A create that succeeds draws an identifier and writes the row that it answers with under it. -/
theorem Effect.created {d : Draft} (he : s.Effect step (.ok (.task t)) s') (op : step.operation = .create d) :
    step.operation.draws = true ∧ t.id = step.fresh ∧ s' = s.insert step.fresh t := by
  cases he with
  | reads h => rw [op] at h; cases h
  | creates op ready => exact ⟨by rw [op]; exact Operation.draws_create_iff.mpr ⟨_, ready⟩, rfl, rfl⟩
  | changes op' | clears op' => rw [op] at op'; cases op'

/-- An update that succeeds writes the row that it answers with in the place of one that takes it. -/
theorem Effect.changed {c : Change} (he : s.Effect step (.ok (.task t)) s') (op : step.operation = .update id scope c) :
    ∃ row, s[id]? = some row ∧ row.Checked c.cleaned ∧ t = row.apply c.cleaned step.now ∧ s' = s.insert id t := by
  cases he with
  | reads h => rw [op] at h; cases h
  | creates op' | clears op' => rw [op] at op'; cases op'
  | changes op' _ found legal =>
    cases op.symm.trans op'
    exact ⟨_, (find_eq_some_iff.mp found).1, Task.check_eq_ok_iff.mp legal, rfl, rfl⟩

/-- A clear that succeeds writes the row without its reason. -/
theorem Effect.cleared (he : s.Effect step (.ok (.task t)) s') (op : step.operation = .clearReason id scope) :
    ∃ row, s[id]? = some row ∧ t = row.withoutReason step.now ∧ s' = s.insert id t := by
  cases he with
  | reads h => rw [op] at h; cases h
  | creates op' | changes op' => rw [op] at op'; cases op'
  | clears op' found =>
    cases op.symm.trans op'
    exact ⟨_, (find_eq_some_iff.mp found).1, rfl, rfl⟩

/-- What a task has from its creation stays as long as no step draws its identifier again. -/
theorem exists_later_origin (paging : Paging) {before later : List Step} (h : (drawnIds (before ++ later)).Nodup)
    (ht : (after paging before)[id]? = some t) :
    ∃ t', (after paging (before ++ later))[id]? = some t' ∧ t'.origin = t.origin :=
  exists_later_row (R := fun t t' => t'.origin = t.origin) (fun _ => rfl) (fun h h' => h'.trans h) (fun _ _ _ _ => rfl)
    (fun _ _ => rfl) paging h ht

end Store

/-- In every run without repeated identifiers: a step changes no row but that of its target; the row that a create is
answered with is stored, and every later row of the task agrees with it in all that updates and clears do not write; an
update without a status that succeeds leaves the status of the task and the moments of its stages as they were; and a
clear that succeeds leaves all of the task but its failure reason and the moment of its last change. -/
theorem frame_of_run (paging : Paging) (steps : List Step) (hfresh : (drawnIds steps).Nodup) (before later : List Step)
    (step : Step) (hsteps : steps = before ++ step :: later) :
    (∀ id, step.target ≠ some id →
      (Store.after paging (before ++ [step]))[id]? = (Store.after paging before)[id]?) ∧
    ∀ t, ((Store.after paging before).perform paging step).1 = .ok (.task t) →
      (∀ d, step.operation = .create d → t.id = step.fresh ∧ ∀ middle, middle <+: later →
        ∃ t', (Store.after paging (before ++ step :: middle))[step.fresh]? = some t' ∧ t'.origin = t.origin) ∧
      (∀ id scope c, step.operation = .update id scope c → c.status = none →
        ∃ row, (Store.after paging before)[id]? = some row ∧
          Store.after paging (before ++ [step]) = (Store.after paging before).insert id t ∧
          t.status = row.status ∧ t.queued = row.queued ∧ t.started = row.started ∧ t.finished = row.finished) ∧
      ∀ id scope, step.operation = .clearReason id scope →
        ∃ row, (Store.after paging before)[id]? = some row ∧
          Store.after paging (before ++ [step]) = (Store.after paging before).insert id t ∧
          t = { row with failureReason := none, modified := step.now } := by
  have he := Store.effect paging (Store.after paging before) step
  rw [← Store.after_concat] at he
  refine ⟨fun id hid => he.getElem?_of_target hid, fun t ht => ?_⟩
  rw [ht] at he
  refine ⟨fun d op => ?_, fun id scope c op hstatus => ?_, fun id scope op => ?_⟩
  · obtain ⟨-, hid, hstore⟩ := he.created op
    refine ⟨hid, fun middle hmiddle => ?_⟩
    have hrow : (Store.after paging (before ++ [step]))[step.fresh]? = some t := by
      rw [hstore, Store.getElem?_insert, if_pos rfl]
    obtain ⟨rest, rfl⟩ := hmiddle
    rw [List.append_cons] at hsteps
    have hprefix : (drawnIds (before ++ [step] ++ middle)).Nodup := by
      rw [hsteps, ← List.append_assoc] at hfresh
      exact nodup_of_append hfresh
    rw [List.append_cons]
    exact Store.exists_later_origin paging hprefix hrow
  · obtain ⟨row, hrow, -, rfl, hstore⟩ := he.changed op
    exact ⟨row, hrow, hstore, Task.stages_apply_none (c := c.cleaned) hstatus row step.now⟩
  · obtain ⟨row, hrow, rfl, hstore⟩ := he.cleared op
    exact ⟨row, hrow, hstore, rfl⟩

/-- A task fails, is told of a callback that did not go through, and is cleared; another one is created meanwhile. -/
def notedRun : List Step := [
  ⟨.create { Draft.ofUrl "http://[::1]" with title := some "prices" }, Moment.inMinute 0, "tsk_1"⟩,
  ⟨.update "tsk_1" none (Change.toStatus .failed (some "no route") none), Moment.inMinute 1, ""⟩,
  ⟨.create (Draft.ofUrl "http://[::1]"), Moment.inMinute 2, "tsk_2"⟩,
  ⟨.update "tsk_1" none { Change.empty with webhookFailure := some "gone" }, Moment.inMinute 3, ""⟩,
  ⟨.clearReason "tsk_1" none, Moment.inMinute 4, ""⟩]

/-- It keeps what it was created with, the note leaves it failed, and the clear takes only the reason. -/
theorem frame_of_notedRun :
    (drawnIds notedRun).Nodup ∧
      (∃ t t', ((Store.after Paging.default []).perform Paging.default notedRun[0]).1 = .ok (.task t) ∧
        (Store.after Paging.default notedRun)["tsk_1"]? = some t' ∧ t'.origin = t.origin) ∧
      (∃ row t, (Store.after Paging.default (notedRun.take 3))["tsk_1"]? = some row ∧
        ((Store.after Paging.default (notedRun.take 3)).perform Paging.default notedRun[3]).1 = .ok (.task t) ∧
        t.webhookFailure = some "gone" ∧ t.status = row.status ∧ t.finished = row.finished) ∧
      ∃ row, (Store.after Paging.default (notedRun.take 4))["tsk_1"]? = some row ∧
        Store.after Paging.default notedRun =
          (Store.after Paging.default (notedRun.take 4)).insert "tsk_1"
            { row with failureReason := none, modified := Moment.inMinute 4 } := by
  have hids : drawnIds notedRun = ["tsk_1", "tsk_2"] := rfl
  have hfresh : (drawnIds notedRun).Nodup := by rw [hids]; decide
  have hcreated : ∃ t, ((Store.after Paging.default []).perform Paging.default notedRun[0]).1 = .ok (.task t) := ⟨_, rfl⟩
  have hnoted : ∃ t, ((Store.after Paging.default (notedRun.take 3)).perform Paging.default notedRun[3]).1 =
      .ok (.task t) ∧ t.webhookFailure = some "gone" := ⟨_, rfl, rfl⟩
  have hcleared : ∃ t, ((Store.after Paging.default (notedRun.take 4)).perform Paging.default notedRun[4]).1 =
      .ok (.task t) := ⟨_, rfl⟩
  obtain ⟨t, ht⟩ := hcreated
  obtain ⟨noted, hnoted, hwebhook⟩ := hnoted
  obtain ⟨cleared, hcleared⟩ := hcleared
  have hcreate := (frame_of_run Paging.default notedRun hfresh [] (notedRun.drop 1) notedRun[0] rfl).2 t ht
  have hnote := (frame_of_run Paging.default notedRun hfresh (notedRun.take 3) (notedRun.drop 4) notedRun[3] rfl).2 noted
    hnoted
  have hclear := (frame_of_run Paging.default notedRun hfresh (notedRun.take 4) [] notedRun[4] rfl).2 cleared hcleared
  obtain ⟨-, hlater⟩ := hcreate.1 _ rfl
  obtain ⟨t', ht', horigin⟩ := hlater (notedRun.drop 1) List.prefix_rfl
  obtain ⟨row, hrow, -, hstatus, -, -, hfinished⟩ := hnote.2.1 _ _ _ rfl rfl
  obtain ⟨last, hlast, hstore, rfl⟩ := hclear.2.2 _ _ rfl
  exact ⟨hfresh, ⟨t, t', ht, ht', horigin⟩, ⟨row, noted, hrow, hnoted, hwebhook, hstatus, hfinished⟩, last, hlast, hstore⟩

end TaskLifecycle
