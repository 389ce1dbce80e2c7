import TaskLifecycle.Task.Change

/-!
# TaskLifecycle.Proofs.Rules — what an accepted update satisfies

* The table of statuses: what a status can be reached from.
* `Standing.checkReason_eq_ok_iff`, `Standing.checkUpdate_eq_ok_iff`: when the rules accept an update, as a conjunction.
* `Task.check_of_none`, `Task.check_of_some`: what a task asks of an update, in the order in which it is asked for.
* `Task.Checked`: what is known of an accepted update, with or without a status.
-/

namespace TaskLifecycle

/-! ## The table -/

namespace Status

variable {s t : Status}

theorem canBecome_iff : s.canBecome t = true ↔ t ∈ s.next :=
  List.contains_iff_mem

theorem needsReason_iff : s.needsReason = true ↔ s = .failed ∨ s = .terminated := by
  cases s <;> simp [needsReason]

theorem needsExtract_iff : s.needsExtract = true ↔ s = .completed := by
  cases s <;> simp [needsExtract]

theorem forbidsExtract_eq_false_iff :
    s.forbidsExtract = false ↔ s = .timedOut ∨ s = .completed ∨ s = .canceled := by
  cases s <;> simp [forbidsExtract]

theorem not_canBecome_created (s : Status) : s.canBecome .created = false := by
  cases s <;> rfl

theorem created_of_canBecome_queued (h : s.canBecome .queued = true) : s = .created := by
  cases s <;> first | rfl | cases h

theorem created_or_queued_of_canBecome_running (h : s.canBecome .running = true) : s = .created ∨ s = .queued := by
  cases s <;> first | exact .inl rfl | exact .inr rfl | cases h

theorem running_of_canBecome_terminated (h : s.canBecome .terminated = true) : s = .running := by
  cases s <;> first | rfl | cases h

/-- The only way from a final status leads from `canceled` to `completed`. -/
theorem canceled_of_isFinal (hs : s.isFinal = true) (h : s.canBecome t = true) : s = .canceled ∧ t = .completed := by
  cases s <;> cases t <;> first | exact ⟨rfl, rfl⟩ | exact absurd hs (by decide) | exact absurd h (by decide)

/-- A status that forbids extracted information follows only such statuses. -/
theorem forbidsExtract_of_canBecome (ht : t.forbidsExtract = true) (h : s.canBecome t = true) :
    s.forbidsExtract = true := by
  cases s <;> cases t <;> first | rfl | exact absurd ht (by decide) | exact absurd h (by decide)

end Status

/-! ## Accepted updates -/

namespace Standing

variable {s : Standing} {reason : Option String}

theorem hasGoal_iff : s.hasGoal = true ↔ s.extractionGoal ≠ none ∧ s.extractionGoal ≠ some "" := by
  unfold hasGoal
  cases s.extractionGoal <;> simp

theorem checkReason_eq_ok_iff : s.checkReason reason = .ok () ↔ s.failureReason = none ∨ reason = none := by
  unfold checkReason
  cases s.failureReason <;> cases reason <;> simp

theorem checkUpdate_eq_ok_iff {α : Type} {target : Status} {extract : Option α} :
    s.checkUpdate target extract reason = .ok () ↔
      s.status.canBecome target = true ∧
      (target.needsReason = true → reason.isSome = true) ∧
      (target.needsExtract = true → s.hasGoal = true → extract.isSome = true) ∧
      (target.forbidsExtract = true → extract = none) ∧
      (s.failureReason = none ∨ reason = none) := by
  unfold checkUpdate
  by_cases h1 : s.status.canBecome target = true
  · rw [if_neg (not_not_intro h1)]
    by_cases h2 : target.needsReason = true ∧ reason.isNone = true
    · obtain ⟨hn, hr⟩ := h2
      obtain rfl := Option.isNone_iff_eq_none.mp hr
      simp [hn]
    · rw [if_neg h2]
      by_cases h3 : target.needsExtract = true ∧ s.hasGoal = true ∧ extract.isNone = true
      · obtain ⟨hn, hg, he⟩ := h3
        obtain rfl := Option.isNone_iff_eq_none.mp he
        simp [hn, hg]
      · rw [if_neg h3]
        by_cases h4 : target.forbidsExtract = true ∧ extract.isSome = true
        · simp [h4, Option.isSome_iff_ne_none.mp h4.2]
        · rw [if_neg h4, checkReason_eq_ok_iff]
          cases extract <;> cases reason <;> simp_all
  · simp [h1]

end Standing

namespace Task

variable {t : Task} {c : Change} {now : Moment}

theorem status_apply_none (h : c.status = none) : (t.apply c now).status = t.status := by
  simp [apply, h]

theorem status_apply_some {s : Status} (h : c.status = some s) : (t.apply c now).status = s := by
  simp [apply, h]

/-- What a task asks of an update without a status. -/
theorem check_of_none (h : c.status = none) :
    t.check c = if t.failureReason.isSome ∧ c.failureReason.isSome then .error .reasonAlreadySet else .ok () := by
  simp only [check, h]
  rfl

/-- What a task asks of an update with a status, one thing after another. -/
theorem check_of_some {target : Status} (h : c.status = some target) :
    t.check c =
      if ¬ t.status.canBecome target then .error (.transition (.between t.status target))
      else if target.needsReason ∧ c.failureReason.isNone then .error (.missingReason target)
      else if target.needsExtract ∧ t.standing.hasGoal ∧ c.extract.isNone then .error (.missingExtract target)
      else if target.forbidsExtract ∧ c.extract.isSome then .error (.unexpectedExtract target)
      else if t.failureReason.isSome ∧ c.failureReason.isSome then .error .reasonAlreadySet
      else .ok () := by
  simp only [check, h, Standing.checkUpdate, Standing.checkReason, standing]
  rfl

/-- What is known of an update that a task takes. -/
structure Checked (t : Task) (c : Change) : Prop where
  edge : ∀ s ∈ c.status, t.status.canBecome s = true
  reason : ∀ s ∈ c.status, s.needsReason = true → c.failureReason.isSome = true
  extract : ∀ s ∈ c.status, s.needsExtract = true → t.standing.hasGoal = true → c.extract.isSome = true
  noExtract : ∀ s ∈ c.status, s.forbidsExtract = true → c.extract = none
  once : t.failureReason = none ∨ c.failureReason = none

theorem check_eq_ok_iff : t.check c = .ok () ↔ t.Checked c := by
  unfold check
  cases hs : c.status with
  | none =>
    rw [Standing.checkReason_eq_ok_iff]
    exact ⟨fun h => ⟨by simp [hs], by simp [hs], by simp [hs], by simp [hs], h⟩, Checked.once⟩
  | some s =>
    rw [Standing.checkUpdate_eq_ok_iff]
    constructor
    · rintro ⟨h1, h2, h3, h4, h5⟩
      have only : ∀ s' ∈ c.status, s' = s := fun s' h => by
        rw [hs] at h
        exact (Option.mem_some.mp h).symm
      exact ⟨fun s' h => only s' h ▸ h1, fun s' h => only s' h ▸ h2, fun s' h => only s' h ▸ h3,
        fun s' h => only s' h ▸ h4, h5⟩
    · intro h
      exact ⟨h.edge s hs, h.reason s hs, h.extract s hs, h.noExtract s hs, h.once⟩

end Task
end TaskLifecycle
