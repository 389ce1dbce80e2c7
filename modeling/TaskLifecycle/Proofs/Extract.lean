import TaskLifecycle.Proofs.History

/-!
# TaskLifecycle.Proofs.Extract — extracted information under statuses that forbid it

The rules look at extracted information only in updates with a status; an update without one files it in every status.

* `Event.filed?`: the extracted information of an update without a status.
* `Yields.filed`: under a status that forbids extracted information, a task holds what was filed last.
* `extract_of_forbidding`: so it holds none if and only if none was filed; `running_with_extract`: a running task that
  holds some.
-/

namespace TaskLifecycle

/-- The extracted information that an update without a status brings. -/
def Event.filed? : Event → Option Json
  | .changed c _ => if c.status.isNone then c.extract else none
  | _ => none

/-- Under a status that forbids extracted information, a task holds what was filed last since its creation. -/
theorem Yields.filed {id : String} {es : List Event} {t : Task} (h : Yields id es (some t)) :
    t.status.forbidsExtract = true →
      t.extract = ((since Event.isCreated es).filterMap Event.filed?).getLast?.map Json.clean := by
  refine h.keeps ?_ ?_ ?_
  · intro es d now _
    rw [since_concat_pos es rfl]
    rfl
  · intro es t c now ih legal hs
    rw [since_concat_neg es rfl, List.filterMap_append]
    cases hst : c.status with
    | none =>
      rw [Task.status_apply_none (c := c.cleaned) hst] at hs
      cases he : c.extract with
      | none => simpa [Task.apply, Event.filed?, hst, he] using ih hs
      | some v => simp [Task.apply, Event.filed?, hst, he]
    | some s =>
      rw [Task.status_apply_some (c := c.cleaned) hst] at hs
      -- the update brings nothing, and the status before it forbids extracted information too
      have he : c.extract = none := by simpa using legal.noExtract s hst hs
      have hbefore := Status.forbidsExtract_of_canBecome hs (legal.edge s hst)
      simpa [Task.apply, Event.filed?, hst, he] using ih hbefore
  · intro es t now ih hs
    rw [since_concat_neg es rfl, List.filterMap_append]
    simpa [Task.withoutReason, Event.filed?] using ih hs

/-- In every run, a stored task whose status forbids extracted information holds what the last update without a status
has filed since its creation; it holds none if and only if no such update brought any. -/
theorem extract_of_forbidding (paging : Paging) (steps : List Step) {id : String} {t : Task}
    (ht : (Store.after paging steps)[id]? = some t) (hs : t.status.forbidsExtract = true) :
    t.extract = ((since Event.isCreated (Store.history paging steps id)).filterMap Event.filed?).getLast?.map
        Json.clean ∧
      (t.extract = none ↔ ∀ c now, .changed c now ∈ since Event.isCreated (Store.history paging steps id) →
        c.status = none → c.extract = none) := by
  have hy := yields_history paging steps id
  rw [ht] at hy
  have he := hy.filed hs
  refine ⟨he, ?_⟩
  rw [he, Option.map_eq_none_iff, List.getLast?_eq_none_iff, List.filterMap_eq_nil_iff]
  constructor
  · intro h c now hm hst
    simpa [Event.filed?, hst] using h _ hm
  · intro h e hm
    cases e with
    | created | cleared => rfl
    | changed c now =>
      show (if c.status.isNone then c.extract else none) = none
      split
      · rename_i hst
        exact h c now hm (Option.isNone_iff_eq_none.mp hst)
      · rfl

/-- A task is created, files a price without a change of status, is queued and run. -/
def pricedRun : List Step := [
  ⟨.create (Draft.ofUrl "http://[::1]"), Moment.inMinute 0, "tsk_1"⟩,
  ⟨.update "tsk_1" none { Change.empty with extract := some (.string "42 EUR") }, Moment.inMinute 1, ""⟩,
  ⟨.update "tsk_1" none (Change.toStatus .queued none none), Moment.inMinute 2, ""⟩,
  ⟨.update "tsk_1" none (Change.toStatus .running none none), Moment.inMinute 3, ""⟩]

/-- A running task holds extracted information, although its status forbids it. -/
theorem running_with_extract :
    ∃ t, (Store.after Paging.default pricedRun)["tsk_1"]? = some t ∧ t.status = .running ∧
      t.status.forbidsExtract = true ∧ t.extract = some (.string "42 EUR") :=
  ⟨_, rfl, rfl, rfl, rfl⟩

/-- What the running task holds is what was filed. -/
theorem extract_of_pricedRun :
    ∃ t, (Store.after Paging.default pricedRun)["tsk_1"]? = some t ∧ t.status.forbidsExtract = true ∧
      t.extract = ((since Event.isCreated (Store.history Paging.default pricedRun "tsk_1")).filterMap
        Event.filed?).getLast?.map Json.clean ∧ t.extract.isSome = true := by
  obtain ⟨t, ht, hs, he⟩ : ∃ t, (Store.after Paging.default pricedRun)["tsk_1"]? = some t ∧
      t.status.forbidsExtract = true ∧ t.extract.isSome = true := ⟨_, rfl, rfl, rfl⟩
  exact ⟨t, ht, hs, (extract_of_forbidding _ _ ht hs).1, he⟩

end TaskLifecycle
