import TaskLifecycle.Proofs.History
import TaskLifecycle.Proofs.Naming

/-!
# TaskLifecycle.Proofs.Goal — completed tasks have what was to be extracted

The rules look for extracted information only in the update that completes a task; what the task holds before or after
that update does not matter to them.

* `Task.Met`: a completed task with an extraction goal holds extracted information; `Task.Met.apply`: an accepted update
  keeps it so.
* `Task.Keeps`: a later row of a task has the same goal, and extracted information if the earlier one had some.
* `extract_of_goal`: both, in every run.
-/

namespace TaskLifecycle

namespace Task

variable {t t' t'' : Task} {c : Change} {now : Moment}

/-! ## Goals -/

/-- A task that is completed and has an extraction goal holds extracted information. -/
def Met (t : Task) : Prop :=
  t.status = .completed → t.standing.hasGoal = true → t.extract.isSome = true

theorem isSome_extract_apply (h : t.extract.isSome = true) : (t.apply c now).extract.isSome = true := by
  show (c.extract.or t.extract).isSome = true
  rw [Option.isSome_or, h, Bool.or_true]

/-- An accepted update completes a task only with extracted information, and takes none away. -/
theorem Met.apply (h : t.Met) (hc : t.Checked c) : (t.apply c now).Met := by
  intro hs hg
  -- an update leaves the goal as it is
  have hgoal : t.standing.hasGoal = true := hg
  cases hst : c.status with
  | none =>
    rw [status_apply_none hst] at hs
    exact isSome_extract_apply (h hs hgoal)
  | some s =>
    rw [status_apply_some hst] at hs
    subst hs
    have hsome : c.extract.isSome = true := hc.extract .completed hst rfl hgoal
    show (c.extract.or t.extract).isSome = true
    rw [Option.isSome_or, hsome, Bool.true_or]

/-! ## Later rows -/

/-- A later row of a task has the same extraction goal, and extracted information if the earlier one had some. -/
structure Keeps (t t' : Task) : Prop where
  goal : t'.extractionGoal = t.extractionGoal
  extract : t.extract.isSome = true → t'.extract.isSome = true

theorem Keeps.refl (t : Task) : t.Keeps t :=
  ⟨rfl, fun h => h⟩

theorem Keeps.trans (h : t.Keeps t') (h' : t'.Keeps t'') : t.Keeps t'' :=
  ⟨h'.goal.trans h.goal, fun he => h'.extract (h.extract he)⟩

theorem keeps_apply (t : Task) (c : Change) (now : Moment) : t.Keeps (t.apply c now) :=
  ⟨rfl, isSome_extract_apply⟩

theorem keeps_withoutReason (t : Task) (now : Moment) : t.Keeps (t.withoutReason now) :=
  ⟨rfl, fun h => h⟩

end Task

/-- Every history leads to a row whose goal is met. -/
theorem Yields.met {id : String} {es : List Event} {t : Task} (h : Yields id es (some t)) : t.Met := by
  refine h.keeps ?_ ?_ ?_
  · intro es d now hs
    cases hs
  · intro es t c now ih legal
    exact ih.apply legal
  · intro es t now ih
    exact ih

/-- In every run, a stored task that is completed and has an extraction goal that is not empty holds extracted
information; and if no identifier is drawn twice, what is stored under an identifier later has the same goal, and
extracted information if there was some before. -/
theorem extract_of_goal (paging : Paging) (steps : List Step) :
    (∀ (id : String) (t : Task) (goal : String), (Store.after paging steps)[id]? = some t → t.status = .completed →
      t.extractionGoal = some goal → goal ≠ "" → t.extract.isSome = true) ∧
    ((drawnIds steps).Nodup → ∀ (before later : List Step) (id : String) (t : Task), steps = before ++ later →
      (Store.after paging before)[id]? = some t →
        ∃ t', (Store.after paging steps)[id]? = some t' ∧ t'.extractionGoal = t.extractionGoal ∧
          (t.extract.isSome = true → t'.extract.isSome = true)) := by
  constructor
  · intro id t goal ht hs hgoal hne
    have hy := yields_history paging steps id
    rw [ht] at hy
    have hasGoal : t.standing.hasGoal = true := by
      simp only [Task.standing, Standing.hasGoal, hgoal]
      exact decide_eq_true hne
    exact hy.met hs hasGoal
  · rintro hfresh before later id t rfl ht
    obtain ⟨t', ht', hk⟩ := Store.exists_later_row Task.Keeps.refl Task.Keeps.trans
      (fun t c now _ => Task.keeps_apply t c now) Task.keeps_withoutReason paging hfresh ht
    exact ⟨t', ht', hk.goal, hk.extract⟩

/-- A task with a goal runs, is canceled, completes with a price, and is updated and cleared after that. -/
def goalRun : List Step := [
  ⟨.create { Draft.ofUrl "http://[::1]" with extractionGoal := some "price" }, Moment.inMinute 0, "tsk_1"⟩,
  ⟨.update "tsk_1" none (Change.toStatus .running none none), Moment.inMinute 1, ""⟩,
  ⟨.update "tsk_1" none (Change.toStatus .canceled none none), Moment.inMinute 2, ""⟩,
  ⟨.update "tsk_1" none (Change.toStatus .completed none none), Moment.inMinute 3, ""⟩,
  ⟨.update "tsk_1" none (Change.toStatus .completed none (some (.string "42 EUR"))), Moment.inMinute 4, ""⟩,
  ⟨.update "tsk_1" none { Change.empty with failureReason := some "late" }, Moment.inMinute 5, ""⟩,
  ⟨.clearReason "tsk_1" none, Moment.inMinute 6, ""⟩]

/-- The completed task holds the price, which came with the second attempt to complete it, and so it does after the
steps that follow. -/
theorem extract_of_goalRun :
    (drawnIds goalRun).Nodup ∧
      (∃ t, (Store.after Paging.default (goalRun.take 5))["tsk_1"]? = some t ∧ t.status = .completed ∧
        t.extractionGoal = some "price" ∧ t.extract.isSome = true) ∧
      ∃ t, (Store.after Paging.default goalRun)["tsk_1"]? = some t ∧ t.extractionGoal = some "price" ∧
        t.extract.isSome = true := by
  have hids : drawnIds goalRun = ["tsk_1"] := rfl
  have hfresh : (drawnIds goalRun).Nodup := by rw [hids]; decide
  have hrow : ∃ t, (Store.after Paging.default (goalRun.take 5))["tsk_1"]? = some t ∧ t.status = .completed ∧
      t.extractionGoal = some "price" := ⟨_, rfl, rfl, rfl⟩
  obtain ⟨t, ht, hs, hg⟩ := hrow
  have hmet := (extract_of_goal Paging.default (goalRun.take 5)).1 "tsk_1" t "price" ht hs hg (by decide)
  obtain ⟨t', ht', hg', he'⟩ := (extract_of_goal Paging.default goalRun).2 hfresh (goalRun.take 5) (goalRun.drop 5)
    "tsk_1" t (List.take_append_drop 5 goalRun).symm ht
  exact ⟨hfresh, ⟨t, ht, hs, hg, hmet⟩, t', ht', hg'.trans hg, he' hmet⟩

end TaskLifecycle
