import TaskLifecycle.Proofs.History

/-!
# TaskLifecycle.Proofs.Timeline — the moments of a task fit its status

* `Task.Timely`: which moments a task of a status has, and that they follow one another.
* `Task.stages_apply`: an accepted update leaves the moments of a task or adds its own at their end; hence
  `Timely.apply`.
* `timely_of_run`: every task of every run whose clock never goes back is timely.
-/

namespace TaskLifecycle

namespace Moment

theorem le_refl (a : Moment) : a ≤ a :=
  Int.le_refl _

theorem le_trans {a b c : Moment} (h : a ≤ b) (h' : b ≤ c) : a ≤ c :=
  Int.le_trans h h'

end Moment

namespace Task

variable {t : Task} {c : Change} {now : Moment}

/-! ## Moments that are set once -/

@[simp] theorem stamp_false (now : Moment) (m : Option Moment) : stamp false now m = m := by
  cases m <;> rfl

@[simp] theorem stamp_none (now : Moment) : stamp true now none = some now := rfl

@[simp] theorem isSome_stamp (enters : Bool) (now : Moment) (m : Option Moment) :
    (stamp enters now m).isSome = (m.isSome || enters) := by
  cases m <;> cases enters <;> rfl

theorem stamp_of_isSome {m : Option Moment} (enters : Bool) (h : m.isSome = true) : stamp enters now m = m := by
  cases m with
  | none => cases h
  | some m => rfl

/-- The moments at which a task entered its states, those that are there. -/
def stages (t : Task) : List Moment :=
  t.created :: (t.queued.toList ++ t.started.toList ++ t.finished.toList)

/-- The moments of a task fit its status and follow one another. -/
structure Timely (t : Task) : Prop where
  finished : t.finished.isSome = t.status.isFinal
  created : t.status = .created → t.queued = none ∧ t.started = none ∧ t.finished = none
  queued : t.status = .queued → t.queued.isSome = true ∧ t.started = none
  started : t.status = .running ∨ t.status = .terminated → t.started.isSome = true
  ordered : (t.stages ++ [t.modified]).Pairwise (· ≤ ·)

namespace Timely

theorem finished_none (h : t.Timely) (hf : t.status.isFinal = false) : t.finished = none := by
  rw [← h.finished] at hf
  simpa using hf

theorem started_none (h : t.Timely) (hs : t.status = .created ∨ t.status = .queued) : t.started = none := by
  rcases hs with hs | hs
  · exact (h.created hs).2.1
  · exact (h.queued hs).2

end Timely

/-! ## Updates -/

/-- An accepted update leaves the moments of a task as they are, or adds its own at their end. -/
theorem stages_apply (h : t.Timely) (hc : t.Checked c) :
    (t.apply c now).stages = t.stages ∨ (t.apply c now).stages = t.stages ++ [now] := by
  cases hs : c.status with
  | none =>
    left
    simp [stages, apply, hs, ends]
  | some s =>
    have edge := hc.edge s hs
    by_cases hf : s.isFinal = true
    · have hq : (some s == some Status.queued) = false := by cases s <;> first | rfl | cases hf
      have hr : (some s == some Status.running) = false := by cases s <;> first | rfl | cases hf
      by_cases ht : t.status.isFinal = true
      · left
        rw [← h.finished] at ht
        simp [stages, apply, hs, hq, hr, stamp_of_isSome _ ht]
      · right
        simp [stages, apply, hs, hq, hr, ends, hf, h.finished_none (by simpa using ht)]
    · right
      cases s with
      | created => rw [Status.not_canBecome_created] at edge; cases edge
      | queued =>
        have hst := Status.created_of_canBecome_queued edge
        have hne : (Status.queued == Status.running) = false := rfl
        obtain ⟨h1, h2, h3⟩ := h.created hst
        simp [stages, apply, hs, hne, ends, Status.isFinal, h1, h2, h3]
      | running =>
        have hst := Status.created_or_queued_of_canBecome_running edge
        have h2 := h.started_none hst
        have hne : (Status.running == Status.queued) = false := rfl
        have h3 := h.finished_none (by rcases hst with e | e <;> rw [e] <;> rfl)
        simp [stages, apply, hs, hne, ends, Status.isFinal, h2, h3]
      | timedOut | failed | terminated | completed | canceled => exact absurd rfl hf

/-- The order of the moments is kept by whatever adds at most the present moment at their end. -/
theorem ordered_of_stages {t' : Task} (h : t.Timely) (hnow : t.modified ≤ now)
    (hs : t'.stages = t.stages ∨ t'.stages = t.stages ++ [now]) (hm : t'.modified = now) :
    (t'.stages ++ [t'.modified]).Pairwise (· ≤ ·) := by
  have ho := h.ordered
  rw [List.pairwise_append] at ho
  have hle : ∀ m ∈ t.stages, m ≤ now := fun m hmem =>
    Moment.le_trans (ho.2.2 m hmem t.modified (by simp)) hnow
  rcases hs with hs | hs <;> rw [hs, hm]
  · exact List.pairwise_append.mpr ⟨ho.1, by simp, by simpa using hle⟩
  · refine List.pairwise_append.mpr ⟨List.pairwise_append.mpr ⟨ho.1, by simp, by simpa using hle⟩, by simp, ?_⟩
    simpa [or_imp, forall_and] using ⟨hle, Moment.le_refl now⟩

/-- An accepted update keeps a task timely, if the clock has not gone back. -/
theorem Timely.apply (h : t.Timely) (hc : t.Checked c) (hnow : t.modified ≤ now) : (t.apply c now).Timely := by
  have ordered := ordered_of_stages h hnow (stages_apply h hc) rfl
  cases hs : c.status with
  | none =>
    have hst : (t.apply c now).status = t.status := status_apply_none hs
    have hq : (t.apply c now).queued = t.queued := by simp [Task.apply, hs]
    have hr : (t.apply c now).started = t.started := by simp [Task.apply, hs]
    have hf : (t.apply c now).finished = t.finished := by simp [Task.apply, hs, ends]
    refine ⟨?_, ?_, ?_, ?_, ordered⟩
    · rw [hst, hf]; exact h.finished
    · rw [hst, hq, hr, hf]; exact h.created
    · rw [hst, hq, hr]; exact h.queued
    · rw [hst, hr]; exact h.started
  | some s =>
    have edge := hc.edge s hs
    have hst : (t.apply c now).status = s := status_apply_some hs
    refine ⟨?_, ?_, ?_, ?_, ordered⟩
    · rw [hst]
      by_cases hf : s.isFinal = true
      · simp [Task.apply, hs, ends, hf]
      · -- no status that is not final follows a final one
        have ht : t.status.isFinal = false := by
          by_contra hne
          obtain ⟨-, rfl⟩ := Status.canceled_of_isFinal (by simpa using hne) edge
          exact hf rfl
        simp [Task.apply, hs, ends, hf, h.finished, ht]
    · rw [hst]
      rintro rfl
      rw [Status.not_canBecome_created] at edge
      cases edge
    · rw [hst]
      rintro rfl
      have hne : (Status.queued == Status.running) = false := rfl
      simp [Task.apply, hs, hne, h.started_none (.inl (Status.created_of_canBecome_queued edge))]
    · rw [hst]
      rintro (rfl | rfl)
      · simp [Task.apply, hs]
      · simp [Task.apply, hs, h.started (.inl (Status.running_of_canBecome_terminated edge))]

theorem Timely.withoutReason (h : t.Timely) (hnow : t.modified ≤ now) : (t.withoutReason now).Timely :=
  ⟨h.finished, h.created, h.queued, h.started, ordered_of_stages h hnow (.inl rfl) rfl⟩

theorem timely_task (d : Draft) (id : String) (now : Moment) : (d.task id now).Timely := by
  refine ⟨rfl, fun _ => ⟨rfl, rfl, rfl⟩, fun h => (by cases h), ?_, ?_⟩
  · rintro (h | h) <;> cases h
  · simp [stages, Draft.task, Moment.le_refl]

end Task

/-! ## Runs -/

/-- The moments of a task's history are readings of the clock, in the order in which they were made. -/
theorem moments_sublist (paging : Paging) (steps : List Step) (id : String) :
    ((Store.history paging steps id).map Event.moment).Sublist (steps.map Step.now) := by
  induction steps using List.reverseRecOn with
  | nil => exact List.Sublist.slnil
  | append_singleton steps step ih =>
    rw [Store.history_concat, List.map_append, List.map_append]
    refine ih.append ?_
    cases he : Event.of? id step ((Store.after paging steps).perform paging step).1 with
    | none => simp
    | some e =>
      have hm : e.moment = step.now := Event.moment_of? (Store.effect paging _ step) he
      simp [hm]

/-- A history whose moments do not go back yields a timely row, last modified at one of them. -/
theorem Yields.timely {id : String} {es : List Event} {t : Task} (h : Yields id es (some t))
    (hm : (es.map Event.moment).Pairwise (· ≤ ·)) : t.Timely ∧ t.modified ∈ es.map Event.moment := by
  revert hm
  refine h.keeps ?_ ?_ ?_
  · intro es d now _
    exact ⟨Task.timely_task d id now, by simp [Event.moment, Draft.task]⟩
  · intro es t c now ih legal hm
    rw [List.map_append, List.pairwise_append] at hm
    obtain ⟨ht, hmod⟩ := ih hm.1
    exact ⟨ht.apply legal (hm.2.2 _ hmod now (by simp [Event.moment])),
      by simp [Event.moment, Task.apply]⟩
  · intro es t now ih hm
    rw [List.map_append, List.pairwise_append] at hm
    obtain ⟨ht, hmod⟩ := ih hm.1
    exact ⟨ht.withoutReason (hm.2.2 _ hmod now (by simp [Event.moment])),
      by simp [Event.moment, Task.withoutReason]⟩

/-- In every run whose clock never goes back, every stored task has the moments that its status asks for, one after
another. -/
theorem timely_of_run (paging : Paging) (steps : List Step) (hclock : steps.Pairwise (fun a b => a.now ≤ b.now))
    {id : String} {t : Task} (ht : (Store.after paging steps)[id]? = some t) : t.Timely := by
  have hy := yields_history paging steps id
  rw [ht] at hy
  exact (hy.timely ((List.pairwise_map.mpr hclock).sublist (moments_sublist paging steps id))).1

/-- A task is queued, run and canceled, completes all the same, and is cleared later. -/
def reconciledRun : List Step := [
  ⟨.create (Draft.ofUrl "http://[::1]"), Moment.inMinute 0, "tsk_1"⟩,
  ⟨.update "tsk_1" none (Change.toStatus .queued none none), Moment.inMinute 1, ""⟩,
  ⟨.update "tsk_1" none (Change.toStatus .running none none), Moment.inMinute 2, ""⟩,
  ⟨.update "tsk_1" none (Change.toStatus .canceled none none), Moment.inMinute 3, ""⟩,
  ⟨.update "tsk_1" none (Change.toStatus .completed none none), Moment.inMinute 4, ""⟩,
  ⟨.clearReason "tsk_1" none, Moment.inMinute 5, ""⟩]

/-- The completed task is timely, and it finished when it was canceled. -/
theorem timely_of_reconciledRun :
    reconciledRun.Pairwise (fun a b => a.now ≤ b.now) ∧
      ∃ t, (Store.after Paging.default reconciledRun)["tsk_1"]? = some t ∧ t.status = .completed ∧
        t.finished = some (Moment.inMinute 3) ∧ t.Timely := by
  have hclock : reconciledRun.Pairwise (fun a b => a.now ≤ b.now) := by decide
  have hrow : ∃ t, (Store.after Paging.default reconciledRun)["tsk_1"]? = some t ∧ t.status = .completed ∧
      t.finished = some (Moment.inMinute 3) := ⟨_, rfl, rfl, rfl⟩
  obtain ⟨t, ht, hs, hf⟩ := hrow
  exact ⟨hclock, t, ht, hs, hf, timely_of_run _ _ hclock ht⟩

end TaskLifecycle
