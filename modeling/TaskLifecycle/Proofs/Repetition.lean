import TaskLifecycle.Proofs.Run
import TaskLifecycle.Proofs.Succession

/-!
# TaskLifecycle.Proofs.Repetition — an update that comes twice

A caller that does not know whether its update has arrived can send it again.

* `Task.check_of_reached`, `Task.check_of_reason`, `Task.check_of_neither`: how a task takes an update to the status that it
  has, one with a second failure reason, and one with neither.
* `Store.Delivered`: an update has just been written; `Store.delivered_of_update`: that is so after it has succeeded.
* `repetition_of_update`: the same update is then refused, unless it has neither a status nor a failure reason; in that case
  it is written again, and nothing but the moment of the last change is another.
-/

namespace TaskLifecycle

namespace Task

variable {t : Task} {c : Change}

/-- No status may follow itself. -/
theorem check_of_reached (h : c.status = some t.status) :
    t.check c = .error (.transition (.between t.status t.status)) := by
  rw [check_of_some h, if_pos]
  rw [Status.not_canBecome_self]
  exact Bool.false_ne_true

theorem check_of_reason (h : c.status = none) (hc : c.failureReason ≠ none) (ht : t.failureReason ≠ none) :
    t.check c = .error .reasonAlreadySet := by
  rw [check_of_none h, if_pos]
  exact ⟨Option.isSome_iff_ne_none.mpr ht, Option.isSome_iff_ne_none.mpr hc⟩

theorem check_of_neither (h : c.status = none) (hc : c.failureReason = none) : t.check c = .ok () := by
  rw [check_of_none h, hc, if_neg]
  rintro ⟨-, hsome⟩
  cases hsome

end Task

namespace Store

variable {s s' : Store} {id : String} {scope : Option String} {now later : Moment} {c : Change} {t : Task}

/-- The update `c` of the task `id` has just made the row `t`. -/
structure Delivered (s : Store) (id : String) (scope : Option String) (c : Change) (t : Task) : Prop where
  ready : prepare id c = .ok c.cleaned
  found : s.find id scope = some t
  applied : ∃ (row : Task) (now : Moment), t = row.apply c.cleaned now

theorem delivered_of_update (h : s.update id scope now c = .ok (t, s')) : Delivered s' id scope c t := by
  obtain ⟨ready, row, found, -, rfl, rfl⟩ := update_eq_ok_iff.mp h
  obtain ⟨-, howner⟩ := find_eq_some_iff.mp found
  refine ⟨ready, find_eq_some_iff.mpr ⟨?_, howner⟩, row, now, rfl⟩
  rw [getElem?_insert, if_pos rfl]

namespace Delivered

variable (h : Delivered s id scope c t)
include h

/-- A status that has been reached is not reached again. -/
theorem update_of_status {target : Status} (hs : c.status = some target) :
    s.update id scope later c = .error (.refused t.id (.transition (.between target target))) := by
  obtain ⟨row, now, ht⟩ := h.applied
  have hreached : t.status = target := by
    rw [ht]
    exact Task.status_apply_some (c := c.cleaned) hs
  subst hreached
  exact update_eq_error h.ready h.found (Task.check_of_reached hs)

/-- A failure reason that has been written is not written again. -/
theorem update_of_reason (hs : c.status = none) (hc : c.failureReason ≠ none) :
    s.update id scope later c = .error (.refused t.id .reasonAlreadySet) := by
  obtain ⟨row, now, ht⟩ := h.applied
  have hreason : t.failureReason ≠ none := by
    rw [ht]
    show c.failureReason.or row.failureReason ≠ none
    rw [ne_eq, Option.or_eq_none_iff, not_and_or]
    exact .inl hc
  exact update_eq_error h.ready h.found (Task.check_of_reason (c := c.cleaned) hs hc hreason)

/-- Anything else is written again. -/
theorem update_of_neither (hs : c.status = none) (hc : c.failureReason = none) :
    s.update id scope later c = .ok ({ t with modified := later }, s.insert id { t with modified := later }) := by
  obtain ⟨row, now, ht⟩ := h.applied
  have hagain : t.apply c.cleaned later = { t with modified := later } := by
    rw [ht]
    exact Task.apply_apply row c.cleaned now later
  rw [update_eq_ok h.ready h.found (Task.check_of_neither (c := c.cleaned) hs hc), hagain]

end Delivered

theorem perform_update (paging : Paging) (s : Store) (id fresh : String) (scope : Option String) (c : Change)
    (now : Moment) :
    s.perform paging ⟨.update id scope c, now, fresh⟩ = s.written (s.update id scope now c) := rfl

theorem written_eq_ok_iff {result : Except Fault (Task × Store)} :
    s.written result = (.ok (.task t), s') ↔ result = .ok (t, s') := by
  cases result <;> simp [written, Prod.ext_iff]

end Store

/-- An update that has succeeded and comes again at once, at any moment: if it has a status, the table of statuses refuses
it; if it has none but a failure reason, it is refused because the reason is set; both leave the store as it is.  If it has
neither, it succeeds, and the store differs from the one before in the moment of the last change of the task alone. -/
theorem repetition_of_update (paging : Paging) {s s' : Store} {id fresh : String} {scope : Option String} {c : Change}
    {now : Moment} {t : Task} (h : s.perform paging ⟨.update id scope c, now, fresh⟩ = (.ok (.task t), s'))
    (later : Moment) (fresh' : String) :
    (∀ target, c.status = some target →
      s'.perform paging ⟨.update id scope c, later, fresh'⟩ =
        (.error (.refused t.id (.transition (.between target target))), s')) ∧
    (c.status = none → c.failureReason ≠ none →
      s'.perform paging ⟨.update id scope c, later, fresh'⟩ = (.error (.refused t.id .reasonAlreadySet), s')) ∧
    (c.status = none → c.failureReason = none →
      ∃ s'', s'.perform paging ⟨.update id scope c, later, fresh'⟩ = (.ok (.task { t with modified := later }), s'') ∧
        s'[id]? = some t ∧ s''[id]? = some { t with modified := later } ∧ ∀ key, key ≠ id → s''[key]? = s'[key]?) := by
  rw [Store.perform_update, Store.written_eq_ok_iff] at h
  have hdelivered := Store.delivered_of_update h
  refine ⟨fun target hs => ?_, fun hs hc => ?_, fun hs hc => ?_⟩
  · rw [Store.perform_update, hdelivered.update_of_status hs]
    rfl
  · rw [Store.perform_update, hdelivered.update_of_reason hs hc]
    rfl
  · refine ⟨s'.insert id { t with modified := later }, ?_, ?_, ?_, fun key hkey => ?_⟩
    · rw [Store.perform_update, hdelivered.update_of_neither hs hc]
      rfl
    · exact (Store.find_eq_some_iff.mp hdelivered.found).1
    · rw [Store.getElem?_insert, if_pos rfl]
    · rw [Store.getElem?_insert, if_neg (Ne.symm hkey)]

/-- An update that lets a task fail, one that only notes why it would, and one that records an error. -/
def failedChange : Change :=
  Change.toStatus .failed (some "no route") none

def reasonChange : Change :=
  { Change.empty with failureReason := some "no route" }

def errorChange : Change :=
  { Change.empty with errors := some [.object [("code\x00", .null)]] }

/-- A task that has just been created. -/
def createdStore : Store :=
  Store.after Paging.default [⟨.create (Draft.ofUrl "http://[::1]"), Moment.inMinute 0, "tsk_1"⟩]

/-- Each of them succeeds.  The first two are refused when they come again, and the third is written a second time. -/
theorem repetition_of_createdStore :
    (∃ t s', createdStore.perform Paging.default ⟨.update "tsk_1" none failedChange, Moment.inMinute 1, ""⟩ =
        (.ok (.task t), s') ∧
      s'.perform Paging.default ⟨.update "tsk_1" none failedChange, Moment.inMinute 2, ""⟩ =
        (.error (.refused t.id (.transition (.notAllowed .failed .failed))), s')) ∧
    (∃ t s', createdStore.perform Paging.default ⟨.update "tsk_1" none reasonChange, Moment.inMinute 1, ""⟩ =
        (.ok (.task t), s') ∧
      s'.perform Paging.default ⟨.update "tsk_1" none reasonChange, Moment.inMinute 2, ""⟩ =
        (.error (.refused t.id .reasonAlreadySet), s')) ∧
    ∃ t s' s'', createdStore.perform Paging.default ⟨.update "tsk_1" none errorChange, Moment.inMinute 1, ""⟩ =
        (.ok (.task t), s') ∧
      s'.perform Paging.default ⟨.update "tsk_1" none errorChange, Moment.inMinute 2, ""⟩ =
        (.ok (.task { t with modified := Moment.inMinute 2 }), s'') ∧
      s'["tsk_1"]? = some t ∧ s''["tsk_1"]? = some { t with modified := Moment.inMinute 2 } := by
  have hfailed : ∃ t s', createdStore.perform Paging.default
      ⟨.update "tsk_1" none failedChange, Moment.inMinute 1, ""⟩ = (.ok (.task t), s') := ⟨_, _, rfl⟩
  have hreason : ∃ t s', createdStore.perform Paging.default
      ⟨.update "tsk_1" none reasonChange, Moment.inMinute 1, ""⟩ = (.ok (.task t), s') := ⟨_, _, rfl⟩
  have herror : ∃ t s', createdStore.perform Paging.default
      ⟨.update "tsk_1" none errorChange, Moment.inMinute 1, ""⟩ = (.ok (.task t), s') := ⟨_, _, rfl⟩
  refine ⟨?_, ?_, ?_⟩
  · obtain ⟨t, s', h⟩ := hfailed
    exact ⟨t, s', h, (repetition_of_update Paging.default h (Moment.inMinute 2) "").1 .failed rfl⟩
  · obtain ⟨t, s', h⟩ := hreason
    exact ⟨t, s', h, (repetition_of_update Paging.default h (Moment.inMinute 2) "").2.1 rfl (by decide)⟩
  · obtain ⟨t, s', h⟩ := herror
    obtain ⟨s'', hagain, hbefore, hafter, -⟩ :=
      (repetition_of_update Paging.default h (Moment.inMinute 2) "").2.2 rfl rfl
    exact ⟨t, s', s'', h, hagain, hbefore, hafter⟩

end TaskLifecycle
