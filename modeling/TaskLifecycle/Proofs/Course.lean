import Mathlib.Data.List.Destutter
import Mathlib.Data.List.Infix
import TaskLifecycle.Proofs.Naming

/-!
# TaskLifecycle.Proofs.Course — the statuses that a task goes through

* `Status.rank`: how far a task of a status has come; the table of statuses leads further only.
* `Store.statusAfter`, `Store.statuses`: the status of a task after a run, and after each initial part of it;
  `Store.course`: the latter with repetitions merged; `Store.turns`: where the status changes.
* `Store.statusAfter_concat`: one step leaves the status of a task or takes it along the table; `Store.advance`: the same
  where the task may be absent or come with the step.
* `course_of_run`: the course of a task starts at `created`, follows the table and comes to no status twice.
-/

namespace TaskLifecycle

namespace Status

/-- How far a task of this status has come. -/
def rank : Status → Nat
  | .created => 0
  | .queued => 1
  | .running => 2
  | .timedOut | .failed | .terminated | .canceled => 3
  | .completed => 4

theorem rank_le (s : Status) : s.rank ≤ 4 := by
  cases s <;> decide

/-- The table of statuses leads further only. -/
theorem rank_lt_of_canBecome {s t : Status} (h : s.canBecome t = true) : s.rank < t.rank := by
  cases s <;> cases t <;> first | decide | exact absurd h (by decide)

/-- A path of the table comes to no status twice. -/
theorem nodup_of_isChain {path : List Status} (h : path.IsChain fun s t => s.canBecome t = true) : path.Nodup := by
  -- `canBecome` itself is not transitive, so the ranks are compared.
  have hrank : (path.map rank).IsChain (· < ·) := by
    rw [List.isChain_map]
    exact h.imp fun _ _ => rank_lt_of_canBecome
  exact List.Nodup.of_map rank (List.isChain_iff_pairwise.mp hrank).nodup

end Status

/-- Where each element repeats the one before or is related to it, merging the repetitions leaves a chain. -/
theorem isChain_destutter_ne {α : Type} [DecidableEq α] {R : α → α → Prop} (a : α) {l : List α}
    (h : (a :: l).IsChain fun x y => x = y ∨ R x y) :
    ((a :: l).destutter (· ≠ ·)).head? = some a ∧ ((a :: l).destutter (· ≠ ·)).IsChain R := by
  rw [List.destutter_cons']
  induction l generalizing a with
  | nil => simp
  | cons b l ih =>
    obtain ⟨hab, hl⟩ := List.isChain_cons_cons.mp h
    by_cases hne : a = b
    · subst hne
      rw [List.destutter'_cons_neg _ (not_not_intro rfl)]
      exact ih a hl
    · rw [List.destutter'_cons_pos _ hne]
      obtain ⟨hhead, hchain⟩ := ih b hl
      refine ⟨rfl, ?_⟩
      cases hd : l.destutter' (· ≠ ·) b with
      | nil => simp
      | cons c rest =>
        rw [hd] at hhead hchain
        obtain rfl : c = b := Option.some.inj hhead
        exact List.isChain_cons_cons.mpr ⟨hab.resolve_left hne, hchain⟩

namespace Store

variable {paging : Paging} {steps : List Step} {step : Step} {id : String} {s : Status}

/-! ## One step -/

/-- The status of a task after a run that starts with no tasks. -/
def statusAfter (paging : Paging) (id : String) (steps : List Step) : Option Status :=
  (after paging steps)[id]?.map Task.status

theorem statusAfter_nil (paging : Paging) (id : String) : statusAfter paging id [] = none := by
  rw [statusAfter, show after paging [] = empty from rfl, getElem?_empty]
  rfl

theorem statusAfter_eq_none_iff : statusAfter paging id steps = none ↔ id ∉ drawnIds steps := by
  rw [statusAfter, Option.map_eq_none_iff, ← mem_after_iff paging, Std.ExtTreeMap.mem_iff_isSome_getElem?]
  simp

/-- A task starts as `created`. -/
theorem statusAfter_draws (paging : Paging) (steps : List Step) (hd : step.operation.draws = true) :
    statusAfter paging step.fresh (steps ++ [step]) = some .created := by
  obtain ⟨d, d', op, ready⟩ := Operation.exists_of_draws hd
  rw [statusAfter, after_concat, perform_create paging _ op ready, getElem?_insert, if_pos rfl]
  rfl

/-- A step that does not draw the identifier of a task leaves its status or takes it along the table. -/
theorem statusAfter_concat (h : statusAfter paging id steps = some s)
    (hnew : step.operation.draws = true → step.fresh ≠ id) :
    ∃ s', statusAfter paging id (steps ++ [step]) = some s' ∧ (s = s' ∨ s.canBecome s' = true) := by
  obtain ⟨t, ht, rfl⟩ := Option.map_eq_some_iff.mp h
  rw [statusAfter, after_concat]
  rcases (effect paging _ step).row ht hnew with hr | ⟨c, hc, hr⟩ | hr
  · exact ⟨t.status, by rw [hr]; rfl, .inl rfl⟩
  · cases hs : c.status with
    | none => exact ⟨t.status, by rw [hr, Option.map_some, Task.status_apply_none hs], .inl rfl⟩
    | some s' => exact ⟨s', by rw [hr, Option.map_some, Task.status_apply_some hs], .inr (hc.edge s' hs)⟩
  · exact ⟨t.status, by rw [hr]; rfl, .inl rfl⟩

/-- What one step does to the status of a task. -/
inductive Advance : Option Status → Option Status → Prop
  | absent : Advance none none
  | created : Advance none (some .created)
  | stays (s : Status) : Advance (some s) (some s)
  | moves {s s' : Status} (h : s.canBecome s' = true) : Advance (some s) (some s')

theorem advance (paging : Paging) (id : String) (h : (drawnIds (steps ++ [step])).Nodup) :
    Advance (statusAfter paging id steps) (statusAfter paging id (steps ++ [step])) := by
  cases hs : statusAfter paging id steps with
  | none =>
    -- A task comes with the step only if the step draws its identifier.
    by_cases hnew : step.operation.draws = true ∧ step.fresh = id
    · obtain ⟨hd, rfl⟩ := hnew
      rw [statusAfter_draws paging steps hd]
      exact .created
    · have habsent : statusAfter paging id (steps ++ [step]) = none := by
        rw [statusAfter_eq_none_iff] at hs ⊢
        rw [drawnIds_concat, List.mem_append, not_or]
        refine ⟨hs, ?_⟩
        split
        · rename_i hd
          exact fun hmem => hnew ⟨hd, (List.mem_singleton.mp hmem).symm⟩
        · simp
      rw [habsent]
      exact .absent
  | some s =>
    have hnew : step.operation.draws = true → step.fresh ≠ id := by
      rintro hd rfl
      rw [statusAfter_eq_none_iff.mpr (fresh_notMem_of_nodup h hd)] at hs
      cases hs
    obtain ⟨s', hs', rfl | hmove⟩ := statusAfter_concat hs hnew
    · rw [hs']
      exact .stays s
    · rw [hs']
      exact .moves hmove

/-! ## Runs -/

/-- The statuses of a task after the initial parts of a run, from its creation on. -/
def statuses (paging : Paging) (steps : List Step) (id : String) : List Status :=
  steps.inits.filterMap (statusAfter paging id)

/-- The statuses that a task goes through in a run. -/
def course (paging : Paging) (steps : List Step) (id : String) : List Status :=
  (statuses paging steps id).destutter (· ≠ ·)

/-- The initial parts of a run whose last step changes the status of a task. -/
def turns (paging : Paging) (steps : List Step) (id : String) : List (List Step) :=
  steps.inits.filter fun run =>
    (statusAfter paging id run.dropLast).isSome && statusAfter paging id run != statusAfter paging id run.dropLast

theorem inits_concat (steps : List Step) (step : Step) : (steps ++ [step]).inits = steps.inits ++ [steps ++ [step]] := by
  simp

theorem statuses_concat (paging : Paging) (steps : List Step) (step : Step) (id : String) :
    statuses paging (steps ++ [step]) id =
      statuses paging steps id ++ (statusAfter paging id (steps ++ [step])).toList := by
  rw [statuses, inits_concat, List.filterMap_append]
  cases h : statusAfter paging id (steps ++ [step]) <;> simp [h, statuses]

theorem turns_concat (paging : Paging) (steps : List Step) (step : Step) (id : String) :
    turns paging (steps ++ [step]) id = turns paging steps id ++
      if (statusAfter paging id steps).isSome ∧ statusAfter paging id (steps ++ [step]) ≠ statusAfter paging id steps then
        [steps ++ [step]]
      else [] := by
  rw [turns, inits_concat, List.filter_append, turns]
  congr 1
  simp [List.filter_cons]

/-- The last of the statuses is the one after the whole run. -/
theorem getLast?_statuses (paging : Paging) (id : String) (h : (drawnIds steps).Nodup) :
    (statuses paging steps id).getLast? = statusAfter paging id steps := by
  induction steps using List.reverseRecOn with
  | nil => simp [statuses, statusAfter_nil]
  | append_singleton steps step ih =>
    have ha := advance paging id h
    rw [statuses_concat, List.getLast?_append, ih (nodup_of_append h)]
    generalize statusAfter paging id steps = before, statusAfter paging id (steps ++ [step]) = later at ha
    cases ha <;> rfl

/-- The first of the statuses is `created`. -/
theorem head?_statuses (paging : Paging) (id : String) (h : (drawnIds steps).Nodup) :
    (statuses paging steps id).head? = (statusAfter paging id steps).map fun _ => .created := by
  induction steps using List.reverseRecOn with
  | nil => simp [statuses, statusAfter_nil]
  | append_singleton steps step ih =>
    have ha := advance paging id h
    rw [statuses_concat, List.head?_append, ih (nodup_of_append h)]
    generalize statusAfter paging id steps = before, statusAfter paging id (steps ++ [step]) = later at ha
    cases ha <;> rfl

/-- Each status of a task repeats the one before or follows it in the table. -/
theorem isChain_statuses (paging : Paging) (id : String) (h : (drawnIds steps).Nodup) :
    (statuses paging steps id).IsChain fun s s' => s = s' ∨ s.canBecome s' = true := by
  induction steps using List.reverseRecOn with
  | nil => simp [statuses, statusAfter_nil]
  | append_singleton steps step ih =>
    have ha := advance paging id h
    rw [statuses_concat, List.isChain_append, getLast?_statuses paging id (nodup_of_append h)]
    generalize statusAfter paging id steps = before, statusAfter paging id (steps ++ [step]) = later at ha
    refine ⟨ih (nodup_of_append h), by cases later <;> simp, ?_⟩
    cases ha with
    | absent | created => simp
    | stays s => simp
    | moves hmove => simpa using .inr hmove

/-- The status of a task has not changed more often than its rank says. -/
theorem length_turns_le (paging : Paging) (id : String) (h : (drawnIds steps).Nodup) :
    (turns paging steps id).length ≤ (statusAfter paging id steps).elim 0 Status.rank := by
  induction steps using List.reverseRecOn with
  | nil => simp [turns]
  | append_singleton steps step ih =>
    have ha := advance paging id h
    have ih := ih (nodup_of_append h)
    rw [turns_concat, List.length_append]
    generalize statusAfter paging id steps = before, statusAfter paging id (steps ++ [step]) = later at ha ih ⊢
    cases ha with
    | absent | stays => simpa using ih
    | created =>
      rw [if_neg (by simp)]
      exact ih
    | @moves s s' hmove =>
      have hrank := Status.rank_lt_of_canBecome hmove
      rw [Option.elim_some] at ih ⊢
      split <;> simp only [List.length_singleton, List.length_nil] <;> omega

end Store

/-- In every run without repeated identifiers and for every task created in it: the statuses that the task goes through
start at `created`, follow one another in the table of statuses, and none of them comes twice.  So at most four steps
change its status; no step changes one that is failed, terminated, timed out or completed; and a canceled task can only
become completed. -/
theorem course_of_run (paging : Paging) (steps : List Step) (hfresh : (drawnIds steps).Nodup) {id : String}
    (hid : id ∈ drawnIds steps) :
    (Store.course paging steps id).head? = some .created ∧
      (Store.course paging steps id).IsChain (fun s s' => s.canBecome s' = true) ∧
      (Store.course paging steps id).Nodup ∧
      (Store.turns paging steps id).length ≤ 4 ∧
      ∀ before step later s, steps = before ++ step :: later → Store.statusAfter paging id before = some s →
        ∃ s', Store.statusAfter paging id (before ++ [step]) = some s' ∧
          (s = .failed ∨ s = .terminated ∨ s = .timedOut ∨ s = .completed → s' = s) ∧
          (s = .canceled → s' = .canceled ∨ s' = .completed) := by
  obtain ⟨s, hs⟩ : ∃ s, Store.statusAfter paging id steps = some s :=
    Option.ne_none_iff_exists'.mp fun h => Store.statusAfter_eq_none_iff.mp h hid
  have hhead := Store.head?_statuses paging id hfresh
  have hchain := Store.isChain_statuses paging id hfresh
  have hturns := Store.length_turns_le paging id hfresh
  rw [hs] at hhead hturns
  obtain ⟨first, rest, hl⟩ : ∃ first rest, Store.statuses paging steps id = first :: rest :=
    List.exists_cons_of_ne_nil fun h => by simp [h] at hhead
  rw [hl] at hhead hchain
  obtain rfl : first = .created := Option.some.inj hhead
  obtain ⟨hcreated, hpath⟩ := isChain_destutter_ne Status.created hchain
  rw [Store.course, hl]
  refine ⟨hcreated, hpath, Status.nodup_of_isChain hpath, hturns.trans s.rank_le, ?_⟩
  rintro before step later s rfl hb
  have hpre : (drawnIds (before ++ [step])).Nodup := by
    rw [List.append_cons] at hfresh
    exact nodup_of_append hfresh
  have ha := Store.advance paging id hpre
  rw [hb] at ha
  generalize Store.statusAfter paging id (before ++ [step]) = after at ha ⊢
  cases ha with
  | stays => exact ⟨s, rfl, fun _ => rfl, .inl⟩
  | @moves _ s' hmove =>
    refine ⟨s', rfl, ?_, ?_⟩
    · rintro (rfl | rfl | rfl | rfl) <;> cases hmove
    · rintro rfl
      exact .inr (Status.canceled_of_isFinal rfl hmove).2

/-- Of two tasks one fails at once; the other is queued, run and canceled, and completes all the same, but cannot fail
after that. -/
def twoTasksRun : List Step := [
  ⟨.create (Draft.ofUrl "http://[::1]"), Moment.inMinute 0, "tsk_1"⟩,
  ⟨.create (Draft.ofUrl "http://[::1]"), Moment.inMinute 1, "tsk_2"⟩,
  ⟨.update "tsk_1" none (Change.toStatus .queued none none), Moment.inMinute 2, ""⟩,
  ⟨.update "tsk_2" none (Change.toStatus .failed (some "no route") none), Moment.inMinute 3, ""⟩,
  ⟨.update "tsk_1" none (Change.toStatus .running none none), Moment.inMinute 4, ""⟩,
  ⟨.update "tsk_1" none (Change.toStatus .canceled none none), Moment.inMinute 5, ""⟩,
  ⟨.clearReason "tsk_1" none, Moment.inMinute 6, ""⟩,
  ⟨.update "tsk_1" none (Change.toStatus .completed none none), Moment.inMinute 7, ""⟩,
  ⟨.update "tsk_1" none (Change.toStatus .failed (some "no answer") none), Moment.inMinute 8, ""⟩]

/-- The task that completes has come to no status twice. -/
theorem course_of_twoTasksRun :
    (drawnIds twoTasksRun).Nodup ∧ "tsk_1" ∈ drawnIds twoTasksRun ∧
      (Store.course Paging.default twoTasksRun "tsk_1").Nodup ∧
      (Store.turns Paging.default twoTasksRun "tsk_1").length ≤ 4 := by
  have hids : drawnIds twoTasksRun = ["tsk_1", "tsk_2"] := rfl
  have hfresh : (drawnIds twoTasksRun).Nodup := by rw [hids]; decide
  have hid : "tsk_1" ∈ drawnIds twoTasksRun := by rw [hids]; decide
  obtain ⟨-, -, hnodup, hturns, -⟩ := course_of_run Paging.default twoTasksRun hfresh hid
  exact ⟨hfresh, hid, hnodup, hturns⟩

/-- It went through five statuses, the longest way there is. -/
example : Store.course Paging.default twoTasksRun "tsk_1" = [.created, .queued, .running, .canceled, .completed] := rfl

end TaskLifecycle
