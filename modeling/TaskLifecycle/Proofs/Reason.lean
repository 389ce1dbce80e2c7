import TaskLifecycle.Proofs.History

/-!
# TaskLifecycle.Proofs.Reason — failure reasons are written once

A failure reason stays until it is cleared, and no update that carries another is accepted before.

* `Yields.reasons`: since the last clear or the creation the updates of a task carried its failure reason and no other.
* `Yields.reasons_between`: at most one update between two clears carries a reason.
* `Yields.reason_cleared`: a task that needs a reason and has none has been cleared since it entered its
  status.
* `failureReason_of_run`: the three together, for every task that a run creates.
-/

namespace TaskLifecycle

namespace Event

/-- The failure reason that an update carries. -/
def reason? : Event → Option String
  | .changed c _ => c.failureReason
  | _ => none

/-- Events after which a failure reason can be recorded anew. -/
def renews (e : Event) : Bool :=
  e.isCreated || e.isCleared

/-- Events that give a task its status. -/
def enters : Event → Bool
  | .created _ => true
  | .changed c _ => c.status.isSome
  | .cleared _ => false

end Event

namespace Yields

variable {id : String} {es : List Event} {t : Task}

/-- The updates since the last clear or the creation carried the failure reason of the task and no other. -/
theorem reasons (h : Yields id es (some t)) :
    (since Event.renews es).filterMap Event.reason? = t.failureReason.toList := by
  refine h.keeps ?_ ?_ ?_
  · intro es d now
    rw [since_concat_pos es rfl]
    rfl
  · intro es t c now ih legal
    rw [since_concat_neg es rfl, List.filterMap_append, ih]
    rcases legal.once with ht | hc
    · cases hc : c.failureReason <;> simp [Task.apply, Event.reason?, ht, hc]
    · rw [Change.cleaned_failureReason] at hc
      simp [Task.apply, Event.reason?, hc]
  · intro es t now _
    rw [since_concat_pos es rfl]
    rfl

/-- Between two clears at most one update carries a failure reason. -/
theorem reasons_between {before between later : List Event} {r : Option Task}
    (h : Yields id (before ++ between ++ later) r) (hb : ∀ e ∈ between, e.renews = false) :
    (between.filterMap Event.reason?).length ≤ 1 := by
  obtain ⟨r', hr⟩ := h.of_append
  cases r' with
  | none =>
    have hnil : before ++ between = [] := by
      by_contra hne
      obtain ⟨t, ht⟩ := hr.exists_row hne
      cases ht
    simp [(List.append_eq_nil_iff.mp hnil).2]
  | some t =>
    have hone := hr.reasons
    rw [since_append _ hb, List.filterMap_append] at hone
    have hlen := congrArg List.length hone
    rw [List.length_append] at hlen
    have hle : t.failureReason.toList.length ≤ 1 := by cases t.failureReason <;> simp
    omega

/-- A task that needs a failure reason and has none has been cleared since it entered its status. -/
theorem reason_cleared (h : Yields id es (some t)) : t.status.needsReason = true → t.failureReason = none →
    ∃ n, .cleared n ∈ since Event.enters es := by
  refine h.keeps ?_ ?_ ?_
  · intro es d now hs
    cases hs
  · intro es t c now ih legal hs hnone
    obtain ⟨hreason, hbefore⟩ := Option.or_eq_none_iff.mp hnone
    cases hst : c.status with
    | none =>
      rw [Task.status_apply_none (c := c.cleaned) hst] at hs
      obtain ⟨n, hn⟩ := ih hs hbefore
      rw [since_concat_neg es (by simp [Event.enters, hst])]
      exact ⟨n, by simp [hn]⟩
    | some s =>
      -- entering the status took a reason, so this update has not left the task without one
      rw [Task.status_apply_some (c := c.cleaned) hst] at hs
      have hsome := legal.reason s hst hs
      rw [hreason] at hsome
      cases hsome
  · intro es t now _ _ _
    rw [since_concat_neg es rfl]
    exact ⟨now, by simp⟩

end Yields

/-- In every run, at every moment after its creation, a task has the failure reason of the one update that carried one
since the last clear, or since the creation; no second update carries one before the next clear; and a task that is
failed or terminated has none only if it was cleared after it entered that status. -/
theorem failureReason_of_run (paging : Paging) (steps : List Step) (id : String) {row : Task}
    (hc : .created row ∈ Store.history paging steps id) :
    ∃ t, (Store.after paging steps)[id]? = some t ∧
      (since Event.renews (Store.history paging steps id)).filterMap Event.reason? = t.failureReason.toList ∧
      (∀ before between later, Store.history paging steps id = before ++ between ++ later →
        (∀ e ∈ between, e.renews = false) → (between.filterMap Event.reason?).length ≤ 1) ∧
      (t.status = .failed ∨ t.status = .terminated → t.failureReason = none →
        ∃ n, .cleared n ∈ since Event.enters (Store.history paging steps id)) := by
  have hy := yields_history paging steps id
  obtain ⟨t, ht⟩ := hy.exists_row (List.ne_nil_of_mem hc)
  have hrow : Yields id (Store.history paging steps id) (some t) := by
    rw [← ht]
    exact hy
  refine ⟨t, ht, hrow.reasons, fun before between later he hb => ?_, fun hs hnone => ?_⟩
  · rw [he] at hrow
    exact hrow.reasons_between hb
  · have hn : t.status.needsReason = true := by rcases hs with hs | hs <;> rw [hs] <;> rfl
    exact hrow.reason_cleared hn hnone

/-- A task gets a reason before it runs, keeps it against a second one, is cleared, fails and is cleared again. -/
def clearedRun : List Step := [
  ⟨.create (Draft.ofUrl "http://[::1]"), Moment.inMinute 0, "tsk_1"⟩,
  ⟨.update "tsk_1" none { Change.empty with failureReason := some "no route" }, Moment.inMinute 1, ""⟩,
  ⟨.update "tsk_1" none (Change.toStatus .running (some "no answer") none), Moment.inMinute 2, ""⟩,
  ⟨.clearReason "tsk_1" none, Moment.inMinute 3, ""⟩,
  ⟨.update "tsk_1" none (Change.toStatus .running none none), Moment.inMinute 4, ""⟩,
  ⟨.update "tsk_1" none (Change.toStatus .failed (some "no answer") none), Moment.inMinute 5, ""⟩,
  ⟨.clearReason "tsk_1" none, Moment.inMinute 6, ""⟩]

/-- The failed task has no reason, for it was cleared after it failed. -/
theorem failureReason_of_clearedRun :
    (∃ row, .created row ∈ Store.history Paging.default clearedRun "tsk_1") ∧
      ∃ n, .cleared n ∈ since Event.enters (Store.history Paging.default clearedRun "tsk_1") := by
  have hc : ∃ row, .created row ∈ Store.history Paging.default clearedRun "tsk_1" := ⟨_, .head _⟩
  refine ⟨hc, ?_⟩
  obtain ⟨row, hrow⟩ := hc
  obtain ⟨t, ht, -, -, hlast⟩ := failureReason_of_run _ _ _ hrow
  have hfailed : ∃ t, (Store.after Paging.default clearedRun)["tsk_1"]? = some t ∧ t.status = .failed ∧
      t.failureReason = none := ⟨_, rfl, rfl, rfl⟩
  obtain ⟨t', ht', hs, hnone⟩ := hfailed
  obtain rfl : t = t' := Option.some.inj (ht.symm.trans ht')
  exact hlast (.inl hs) hnone

end TaskLifecycle
