import TaskLifecycle.Proofs.History
import TaskLifecycle.Proofs.Naming

/-!
# TaskLifecycle.Proofs.Replay — a store is the sum of the writes that succeeded

What only reads and what fails leaves no trace, and a task is what the writes on it have made of its first row.

* `succeeded`, `Store.effective`: the writes of a run that succeed; `Store.after_effective`,
  `Store.transcript_effective`: run alone they leave the same store and get the same answers.
* `Event.onto`: a task after one more event; `Yields.eq_foldl_onto`: a row is the last creation and the events after it.
* `Store.history_eq_cons`: without repeated identifiers the history of a task begins with its creation and has no other.
* `Store.answered`: the rows that the writes on a task were answered with; `Store.getLast?_answered`: the last of them
  is the row that is stored.
* `replay_of_run`: all of it, for every run.
-/

namespace TaskLifecycle

/-! ## Writes that succeed -/

/-- Whether a step of a run writes and succeeds. -/
def succeeded (entry : Step × Except Fault Answer) : Bool :=
  !entry.1.operation.reads && entry.2.isOk

namespace Store

variable {s s' : Store} {step : Step} {answer : Except Fault Answer}

/-- A step that reads or fails leaves the store as it is. -/
theorem Effect.eq_of_not_succeeded (he : s.Effect step answer s') (h : succeeded (step, answer) = false) : s' = s := by
  cases he with
  | reads | fails => rfl
  | creates op _ | changes op _ _ _ | clears op _ =>
    -- a write with an answer of its own has succeeded
    simp [succeeded, op, Operation.reads, Except.isOk, Except.toBool] at h

/-- The steps of a run that write and succeed. -/
def effective (paging : Paging) (steps : List Step) : List Step :=
  ((transcript paging steps).filter succeeded).map Prod.fst

theorem effective_concat_pos {paging : Paging} {steps : List Step}
    (h : succeeded (step, ((after paging steps).perform paging step).1) = true) :
    effective paging (steps ++ [step]) = effective paging steps ++ [step] := by
  rw [effective, transcript_concat, List.filter_append, List.map_append, List.filter_cons_of_pos h]
  rfl

theorem effective_concat_neg {paging : Paging} {steps : List Step}
    (h : succeeded (step, ((after paging steps).perform paging step).1) = false) :
    effective paging (steps ++ [step]) = effective paging steps := by
  rw [effective, transcript_concat, List.filter_append, List.filter_cons_of_neg (by simp [h]), List.filter_nil,
    List.append_nil]
  rfl

/-- The writes that succeed leave the same store as the whole run. -/
theorem after_effective (paging : Paging) (steps : List Step) :
    after paging (effective paging steps) = after paging steps := by
  induction steps using List.reverseRecOn with
  | nil => rfl
  | append_singleton steps step ih =>
    cases h : succeeded (step, ((after paging steps).perform paging step).1) with
    | true => rw [effective_concat_pos h, after_concat, after_concat, ih]
    | false =>
      rw [effective_concat_neg h, after_concat, ih]
      exact ((effect paging _ step).eq_of_not_succeeded h).symm

/-- Run alone, the writes that succeed are answered as they were. -/
theorem transcript_effective (paging : Paging) (steps : List Step) :
    transcript paging (effective paging steps) = (transcript paging steps).filter succeeded := by
  induction steps using List.reverseRecOn with
  | nil => rfl
  | append_singleton steps step ih =>
    rw [transcript_concat paging steps step, List.filter_append]
    cases h : succeeded (step, ((after paging steps).perform paging step).1) with
    | true =>
      rw [effective_concat_pos h, transcript_concat, after_effective, ih, List.filter_cons_of_pos h]
      rfl
    | false =>
      rw [effective_concat_neg h, ih, List.filter_cons_of_neg (by simp [h]), List.filter_nil, List.append_nil]

end Store

/-! ## Rows as sums of events -/

/-- A task after one more event: an update counts as it is stored; a clear takes the failure reason away and is the last
change. -/
def Event.onto (t : Task) : Event → Task
  | .created row => row
  | .changed c now =>
    match c.prepare with
    | .ok c => t.apply c now
    | .error _ => t
  | .cleared now => { t with failureReason := none, modified := now }

theorem Event.organization_onto (t : Task) {e : Event} (he : e.isCreated = false) :
    (e.onto t).organization = t.organization := by
  cases e with
  | created row => cases he
  | changed c now =>
    rw [onto]
    split <;> rfl
  | cleared now => rfl

theorem Event.organization_foldl_onto (t : Task) {es : List Event} (hes : ∀ e ∈ es, e.isCreated = false) :
    (es.foldl onto t).organization = t.organization := by
  induction es generalizing t with
  | nil => rfl
  | cons e es ih =>
    rw [List.foldl_cons, ih _ fun e' h => hes e' (by simp [h])]
    exact organization_onto t (hes e (by simp))

namespace Yields

variable {id : String} {es : List Event} {e : Event} {t : Task}

/-- The last event turns the row before it into the row. -/
theorem of_concat {r : Option Task} (h : Yields id (es ++ [e]) r) (he : e.isCreated = false) :
    ∃ t, Yields id es (some t) ∧ r = some (e.onto t) ∧ ∀ c now, e = .changed c now → ∃ c', c.prepare = .ok c' := by
  generalize hl : es ++ [e] = l at h
  cases h with
  | nil => simp at hl
  | created =>
    obtain ⟨-, hlast⟩ := List.append_inj' hl rfl
    obtain rfl := (List.cons.inj hlast).1
    cases he
  | @changed _ t c now before ready =>
    obtain ⟨rfl, hlast⟩ := List.append_inj' hl rfl
    obtain rfl := (List.cons.inj hlast).1
    obtain ⟨-, hprepare, -⟩ := Store.prepare_eq_ok ready
    refine ⟨t, before, ?_, ?_⟩
    · rw [Event.onto, hprepare]
    · rintro c' now' heq
      cases heq
      exact ⟨_, hprepare⟩
  | @cleared _ t now before =>
    obtain ⟨rfl, hlast⟩ := List.append_inj' hl rfl
    obtain rfl := (List.cons.inj hlast).1
    refine ⟨t, before, rfl, ?_⟩
    rintro c' now' heq
    cases heq

/-- A row is its creation with the events since then, each in its stored form. -/
theorem eq_foldl_onto {before : List Event} {row : Task} {r : Option Task}
    (h : Yields id (before ++ .created row :: es) r) (hes : ∀ e ∈ es, e.isCreated = false) :
    r = some (es.foldl Event.onto row) ∧ ∀ c now, .changed c now ∈ es → ∃ c', c.prepare = .ok c' := by
  induction es using List.reverseRecOn generalizing r with
  | nil =>
    refine ⟨?_, by simp⟩
    generalize hl : before ++ [Event.created row] = l at h
    cases h with
    | nil => simp at hl
    | created =>
      obtain ⟨-, hlast⟩ := List.append_inj' hl rfl
      cases hlast
      rfl
    | changed | cleared => cases (List.append_inj' hl rfl).2
  | append_singleton es e ih =>
    rw [← List.cons_append, ← List.append_assoc] at h
    obtain ⟨t, hbefore, hr, hready⟩ := h.of_concat (hes e (by simp))
    obtain ⟨ht, hall⟩ := ih hbefore fun e' h => hes e' (by simp [h])
    constructor
    · rw [hr, Option.some.inj ht, List.foldl_append]
      rfl
    · intro c now hc
      rcases List.mem_append.mp hc with hc | hc
      · exact hall c now hc
      · exact hready c now (List.mem_singleton.mp hc).symm

end Yields

/-! ## Histories of tasks that are created once -/

namespace Store

variable {s s' : Store} {step : Step} {answer : Except Fault Answer} {id : String}

/-- Only a step that draws the identifier of a task creates it. -/
theorem Effect.isCreated_eq_false {e : Event} (he : s.Effect step answer s') (h : Event.of? id step answer = some e)
    (hnew : step.operation.draws = true → step.fresh ≠ id) : e.isCreated = false := by
  cases he with
  | reads hr =>
    rw [Event.of?_reads id answer hr] at h
    cases h
  | fails => cases h
  | creates op ready =>
    have hd : step.operation.draws = true := by
      rw [op]
      exact Operation.draws_create_iff.mpr ⟨_, ready⟩
    simp [Event.of?, op, hnew hd] at h
  | changes op | clears op =>
    simp only [Event.of?, op, Option.ite_none_right_eq_some, Option.some.injEq] at h
    rw [← h.2]
    rfl

/-- What has not been created has no history. -/
theorem history_eq_nil (paging : Paging) {steps : List Step} (h : id ∉ drawnIds steps) : history paging steps id = [] := by
  by_contra hne
  obtain ⟨t, ht⟩ := (yields_history paging steps id).exists_row hne
  exact h ((mem_after_iff paging steps id).mp (mem_iff_getElem?.mpr ⟨t, ht⟩))

/-- Without repeated identifiers, the history of a task begins with its creation and has no other. -/
theorem history_eq_cons (paging : Paging) {before later : List Step} {d d' : Draft} (op : step.operation = .create d)
    (ready : d.prepare = .ok d') (h : (drawnIds (before ++ [step] ++ later)).Nodup) :
    ∃ es, history paging (before ++ [step] ++ later) step.fresh = .created (d'.task step.fresh step.now) :: es ∧
      ∀ e ∈ es, e.isCreated = false := by
  have hd : step.operation.draws = true := by
    rw [op]
    exact Operation.draws_create_iff.mpr ⟨_, ready⟩
  induction later using List.reverseRecOn with
  | nil =>
    rw [List.append_nil] at h ⊢
    refine ⟨[], ?_, by simp⟩
    rw [history_concat, history_eq_nil paging (fresh_notMem_of_nodup h hd), perform_create paging _ op ready]
    simp [Event.of?, op]
  | append_singleton later last ih =>
    rw [← List.append_assoc] at h ⊢
    obtain ⟨es, hes, hnone⟩ := ih (nodup_of_append h)
    -- the identifier has been drawn, so the last step does not draw it again
    have hnew : last.operation.draws = true → last.fresh ≠ step.fresh := by
      intro hlast heq
      have hnot := fresh_notMem_of_nodup h hlast
      rw [heq] at hnot
      exact hnot (fresh_mem_drawnIds (by simp) hd)
    refine ⟨es ++ (Event.of? step.fresh last ((after paging (before ++ [step] ++ later)).perform paging last).1).toList,
      ?_, ?_⟩
    · rw [history_concat, hes, List.cons_append]
    · intro e he
      rcases List.mem_append.mp he with he | he
      · exact hnone e he
      · exact (effect paging _ last).isCreated_eq_false (Option.mem_toList.mp he) hnew

/-! ## Answers -/

/-- The row that a successful write on the task `id` was answered with. -/
def answeredRow? (id : String) (entry : Step × Except Fault Answer) : Option Task :=
  match Event.of? id entry.1 entry.2, entry.2 with
  | some _, .ok (.task t) => some t
  | _, _ => none

/-- The rows that the successful writes on a task were answered with, the creation included. -/
def answered (paging : Paging) (steps : List Step) (id : String) : List Task :=
  (transcript paging steps).filterMap (answeredRow? id)

/-- A write on a task is answered with the row that it stores, and no other step changes the row. -/
theorem Effect.getElem?_eq (he : s.Effect step answer s') (id : String) :
    s'[id]? = (answeredRow? id (step, answer)).or s[id]? := by
  cases he with
  | reads hr => simp only [answeredRow?, Event.of?_reads id answer hr, Option.none_or]
  | fails => rfl
  | creates op ready =>
    rw [getElem?_insert]
    by_cases hk : step.fresh = id
    · simp [answeredRow?, Event.of?, op, hk]
    · simp [answeredRow?, Event.of?, op, hk]
  | @changes key scope c t op ready found legal =>
    rw [getElem?_insert]
    by_cases hk : key = id
    · simp [answeredRow?, Event.of?, op, hk]
    · simp [answeredRow?, Event.of?, op, hk]
  | @clears key scope t op found =>
    rw [getElem?_insert]
    by_cases hk : key = id
    · simp [answeredRow?, Event.of?, op, hk]
    · simp [answeredRow?, Event.of?, op, hk]

/-- The last write on a task was answered with the row that is stored. -/
theorem getLast?_answered (paging : Paging) (steps : List Step) (id : String) :
    (answered paging steps id).getLast? = (after paging steps)[id]? := by
  induction steps using List.reverseRecOn with
  | nil => exact (getElem?_empty id).symm
  | append_singleton steps step ih =>
    rw [answered, transcript_concat, List.filterMap_append, List.getLast?_append, after_concat,
      (effect paging _ step).getElem?_eq id, ← ih]
    cases h : answeredRow? id (step, ((after paging steps).perform paging step).1) with
    | none =>
      rw [List.filterMap_cons_none h]
      rfl
    | some t =>
      rw [List.filterMap_cons_some h]
      rfl

end Store

/-- In every run without repeated identifiers: the writes that succeed, run without the reads and the failed steps, leave
the same store and are answered as they were.  And every task that the run creates is found in its organization as the
row of the prepared draft, with the successful updates, in the form in which they were prepared, and the successful
clears on it made one after another; the last write on the task was answered with that row. -/
theorem replay_of_run (paging : Paging) (steps : List Step) (hfresh : (drawnIds steps).Nodup) :
    Store.after paging (Store.effective paging steps) = Store.after paging steps ∧
    Store.transcript paging (Store.effective paging steps) = (Store.transcript paging steps).filter succeeded ∧
    ∀ before step later d d', steps = before ++ [step] ++ later → step.operation = .create d → d.prepare = .ok d' →
      ∃ es, Store.history paging steps step.fresh = .created (d'.task step.fresh step.now) :: es ∧
        (∀ e ∈ es, e.isCreated = false) ∧ (∀ c now, .changed c now ∈ es → ∃ c', c.prepare = .ok c') ∧
        (Store.after paging steps).find step.fresh d'.organization =
          some (es.foldl Event.onto (d'.task step.fresh step.now)) ∧
        (Store.answered paging steps step.fresh).getLast? =
          some (es.foldl Event.onto (d'.task step.fresh step.now)) := by
  refine ⟨Store.after_effective paging steps, Store.transcript_effective paging steps, ?_⟩
  rintro before step later d d' rfl op ready
  obtain ⟨es, hes, hnone⟩ := Store.history_eq_cons paging op ready hfresh
  have hy := yields_history paging (before ++ [step] ++ later) step.fresh
  rw [hes, ← List.nil_append (.created _ :: es)] at hy
  obtain ⟨hrow, hready⟩ := Yields.eq_foldl_onto hy hnone
  have horganization := Event.organization_foldl_onto (d'.task step.fresh step.now) hnone
  refine ⟨es, hes, hnone, hready, Store.find_eq_some_iff.mpr ⟨hrow, horganization⟩, ?_⟩
  rw [Store.getLast?_answered, hrow]

/-- A task is created, looked at, updated to a status that it cannot take and to one that it can, listed on a page that
does not exist, and cleared by a stranger and by its owner. -/
def busyRun : List Step := [
  ⟨.create (Draft.ofUrl "http://[::1]"), Moment.inMinute 0, "tsk_1"⟩,
  ⟨.find "tsk_1" none, Moment.inMinute 1, ""⟩,
  ⟨.update "tsk_1" none (Change.toStatus .completed none none), Moment.inMinute 2, ""⟩,
  ⟨.update "tsk_1" none (Change.toStatus .failed (some "no route") none), Moment.inMinute 3, ""⟩,
  ⟨.list ⟨Filter.default, 0, 1, .created, .ascending⟩, Moment.inMinute 4, ""⟩,
  ⟨.create (Draft.ofUrl ""), Moment.inMinute 5, "tsk_2"⟩,
  ⟨.clearReason "tsk_1" (some "o_1"), Moment.inMinute 6, ""⟩,
  ⟨.clearReason "tsk_1" none, Moment.inMinute 7, ""⟩]

/-- Three of its steps leave the same store, in which the task is the first row with an update and a clear. -/
theorem replay_of_busyRun :
    (drawnIds busyRun).Nodup ∧
      Store.after Paging.default (Store.effective Paging.default busyRun) = Store.after Paging.default busyRun ∧
      ∃ d', (Draft.ofUrl "http://[::1]").prepare = .ok d' ∧
        ∃ es, Store.history Paging.default busyRun "tsk_1" = .created (d'.task "tsk_1" (Moment.inMinute 0)) :: es ∧
          (Store.after Paging.default busyRun).find "tsk_1" none =
            some (es.foldl Event.onto (d'.task "tsk_1" (Moment.inMinute 0))) := by
  have hids : drawnIds busyRun = ["tsk_1"] := rfl
  have hfresh : (drawnIds busyRun).Nodup := by rw [hids]; decide
  obtain ⟨hstore, -, hrows⟩ := replay_of_run Paging.default busyRun hfresh
  have hready : ∃ d', (Draft.ofUrl "http://[::1]").prepare = .ok d' ∧ d'.organization = none := ⟨_, rfl, rfl⟩
  obtain ⟨d', ready, hnone⟩ := hready
  obtain ⟨es, hes, -, -, hfound, -⟩ := hrows [] _ (busyRun.drop 1) _ d' rfl rfl ready
  rw [hnone] at hfound
  exact ⟨hfresh, hstore, d', ready, es, hes, hfound⟩

/-- The three are the creation, the failure and the owner's clear. -/
example : (Store.effective Paging.default busyRun).map (fun step => step.now.second) = [0, 3, 7] := rfl

end TaskLifecycle
