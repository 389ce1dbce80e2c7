import TaskLifecycle.Proofs.Identifier
import TaskLifecycle.Proofs.Naming

/-!
# TaskLifecycle.Proofs.Freshness — when a new task has an identifier of its own

A new task is written without a look at the store, so that all rests on the source of the identifiers.

* `Worker.mem_store_after`: the tasks of a worker have the identifiers that it has given out.
* `identifier_of_create`: the identifier of a new task is taken if and only if the sequence has come round to its place
  within one second; if it is not, the store grows by the new task and keeps all others.
-/

namespace TaskLifecycle

/-! ## Steps -/

/-- A new task is written under the identifier drawn. -/
theorem Store.of_perform_create {paging : Paging} {s s' : Store} {step : Step} {d : Draft} {t : Task}
    (op : step.operation = .create d) (h : s.perform paging step = (.ok (.task t), s')) :
    t.id = step.fresh ∧ s' = s.insert t.id t := by
  have he := effect paging s step
  rw [h] at he
  cases he with
  | reads hr => rw [op] at hr; cases hr
  | creates => exact ⟨rfl, rfl⟩
  | changes op' | clears op' => rw [op] at op'; cases op'

/-! ## Runs -/

/-- The clock readings, in seconds, for which a run draws identifiers. -/
def drawn (rs : List Request) : List Nat :=
  (rs.filter fun r => r.operation.draws).map Request.seconds

theorem drawn_concat (rs : List Request) (r : Request) :
    drawn (rs ++ [r]) = drawn rs ++ if r.operation.draws then [r.seconds] else [] := by
  cases hd : r.operation.draws <;> simp [drawn, hd]

namespace Worker

/-- The worker after a run from its launch. -/
def after (paging : Paging) (number start : Nat) (rs : List Request) : Worker :=
  ((launch number start).run paging rs).2

theorem run_snd (paging : Paging) (w : Worker) (rs : List Request) :
    (w.run paging rs).2 = rs.foldl (fun w r => (w.perform paging r).2) w := by
  induction rs generalizing w with
  | nil => rfl
  | cons r rest ih => simp only [run, ih, List.foldl_cons]

/-- A run of a worker is a run of its store, so that all that holds of stores holds of workers. -/
theorem exists_steps (paging : Paging) (w : Worker) (rs : List Request) :
    ∃ steps, steps.map Step.operation = rs.map Request.operation ∧ steps.map Step.now = rs.map Request.now ∧
      w.store.run paging steps = ((w.run paging rs).1, (w.run paging rs).2.store) := by
  induction rs generalizing w with
  | nil => exact ⟨[], rfl, rfl, rfl⟩
  | cons r rest ih =>
    obtain ⟨steps, hop, hnow, hrun⟩ := ih (w.perform paging r).2
    refine ⟨w.step r :: steps, congrArg _ hop, congrArg _ hnow, ?_⟩
    have hfirst : (w.store.perform paging (w.step r)).2 = (w.perform paging r).2.store := rfl
    rw [Store.run, hfirst, hrun]
    rfl

variable (paging : Paging) (number start : Nat) (rs : List Request)

theorem after_concat (r : Request) :
    after paging number start (rs ++ [r]) = ((after paging number start rs).perform paging r).2 := by
  simp only [after, run_snd, List.foldl_append, List.foldl_cons, List.foldl_nil]

/-- The source of a worker has given out one number for each identifier drawn. -/
theorem source_after :
    (after paging number start rs).source = (launch number start).source.skip (drawn rs).length := by
  induction rs using List.reverseRecOn with
  | nil => rfl
  | append_singleton rs r ih =>
    rw [after_concat, drawn_concat]
    unfold perform
    split
    · rw [ih, Identifier.Source.next_snd, Identifier.Source.skip_skip, List.length_append]
      rfl
    · rw [ih, List.append_nil]

/-- The tasks of a worker have the identifiers that it has given out. -/
theorem mem_store_after (id : String) :
    id ∈ (after paging number start rs).store ↔
      ∃ n ∈ (launch number start).source.numbers (drawn rs), Identifier.text .task n = id := by
  induction rs using List.reverseRecOn with
  | nil => simp [after, run, launch, Store.empty, drawn, Identifier.Source.numbers]
  | append_singleton rs r ih =>
    rw [after_concat, drawn_concat]
    show id ∈ ((after paging number start rs).store.perform paging _).2 ↔ _
    rw [Store.mem_perform_iff, ih]
    show _ ∨ r.operation.draws = true ∧
      Identifier.text .task ((after paging number start rs).source.next r.seconds).1 = id ↔ _
    rw [source_after]
    split
    · rename_i hd
      rw [Identifier.Source.numbers_concat]
      simp [hd, or_and_right, exists_or]
    · rename_i hd
      simp [hd]

/-- The next identifier is taken if and only if its place in the sequence recurs in its second. -/
theorem fresh_mem_store_after (r : Request) :
    ((after paging number start rs).step r).fresh ∈ (after paging number start rs).store ↔
      Identifier.Recurs (drawn rs) r.seconds := by
  rw [mem_store_after, ← Identifier.Source.next_mem_numbers (launch number start).source]
  show (∃ n ∈ _, _ = Identifier.text .task ((after paging number start rs).source.next r.seconds).1) ↔ _
  rw [source_after]
  constructor
  · rintro ⟨n, hn, he⟩
    rw [← Identifier.text_injective he]
    exact hn
  · intro hn
    exact ⟨_, hn, rfl⟩

/-- A draft that can be prepared becomes a task. -/
theorem exists_task (w : Worker) {r : Request} (hd : r.operation.draws = true) :
    ∃ t w', w.perform paging r = (.ok (.task t), w') := by
  obtain ⟨d, d', op, ready⟩ := Operation.exists_of_draws hd
  have hop : (w.step r).operation = .create d := op
  have ha := congrArg Prod.fst (Store.perform_create paging w.store hop ready)
  exact ⟨_, _, Prod.ext ha rfl⟩

/-- A new task is written under the next identifier. -/
theorem of_perform_create {w w' : Worker} {r : Request} {d : Draft} {t : Task} (op : r.operation = .create d)
    (h : w.perform paging r = (.ok (.task t), w')) :
    t.id = (w.step r).fresh ∧ w'.store = w.store.insert t.id t := by
  obtain ⟨ha, rfl⟩ := Prod.mk.inj h
  exact Store.of_perform_create (d := d) op (Prod.ext ha rfl)

end Worker

/-- In every run of a worker, the identifier of a new task is taken if and only if, a multiple of the sequence's places
earlier, an identifier was drawn in the same second; if it is not taken, the store grows by one and keeps all its
tasks. -/
theorem identifier_of_create (paging : Paging) (number start : Nat) (rs : List Request) {r : Request} {d : Draft}
    {t : Task} {before after : Worker} (hb : Worker.after paging number start rs = before)
    (op : r.operation = .create d) (h : before.perform paging r = (.ok (.task t), after)) :
    (t.id ∈ before.store ↔ Identifier.Recurs (drawn rs) r.seconds) ∧
      (t.id ∉ before.store →
        after.store.size = before.store.size + 1 ∧
          ∀ (id : String) (row : Task), before.store[id]? = some row → after.store[id]? = some row) := by
  obtain ⟨hid, hs⟩ := Worker.of_perform_create paging op h
  refine ⟨?_, fun hnew => ⟨?_, fun id row hrow => ?_⟩⟩
  · rw [hid, ← Worker.fresh_mem_store_after paging number start rs r, hb]
  · rw [hs, Std.ExtTreeMap.size_insert, if_neg]
    simpa using hnew
  · rw [hs, Store.getElem?_insert, if_neg, hrow]
    rintro rfl
    rw [Std.ExtTreeMap.mem_iff_isSome_getElem?, hrow] at hnew
    exact hnew rfl

/-- A request for a new task in the first second of the epoch. -/
def firstSecond : Request :=
  ⟨.create (Draft.ofUrl "http://[::1]"), Moment.inMinute 0, Identifier.epoch⟩

theorem draws_firstSecond : firstSecond.operation.draws = true := by decide +kernel

theorem drawn_firstSecond (n : Nat) : drawn (List.replicate n firstSecond) = List.replicate n Identifier.epoch := by
  rw [drawn, List.filter_replicate, if_pos draws_firstSecond, List.map_replicate]
  rfl

/-- The second of two tasks has an identifier of its own. -/
theorem identifier_of_second : ∃ t after,
    (Worker.after Paging.default 0 0 [firstSecond]).perform Paging.default firstSecond = (.ok (.task t), after) ∧
      t.id ∉ (Worker.after Paging.default 0 0 [firstSecond]).store ∧
        after.store.size = (Worker.after Paging.default 0 0 [firstSecond]).store.size + 1 := by
  obtain ⟨t, after, h⟩ := Worker.exists_task Paging.default (Worker.after Paging.default 0 0 [firstSecond])
    draws_firstSecond
  obtain ⟨hiff, hgrow⟩ := identifier_of_create Paging.default 0 0 [firstSecond] rfl rfl h
  have hnew : t.id ∉ (Worker.after Paging.default 0 0 [firstSecond]).store := by
    rw [hiff, show drawn [firstSecond] = [Identifier.epoch] from drawn_firstSecond 1]
    rintro ⟨i, m, hi, hp, -⟩
    obtain ⟨hi, -⟩ := List.getElem?_eq_some_iff.mp hi
    have h0 : i = 0 := by simpa using hi
    subst h0
    exact absurd hp (by decide)
  exact ⟨t, after, h, hnew, (hgrow hnew).1⟩

/-- As many new tasks in one second as the sequence has places. -/
def fullSecond : List Request :=
  List.replicate Identifier.sequenceMax firstSecond

theorem recurs_fullSecond : Identifier.Recurs (drawn fullSecond) firstSecond.seconds := by
  rw [fullSecond, drawn_firstSecond]
  refine ⟨0, Identifier.epoch, ?_, ?_, rfl⟩
  · rw [List.getElem?_replicate, if_pos (by decide)]
  · rw [List.length_replicate, Nat.mod_self, Nat.zero_mod]

/-- After a full second, another task in it has the identifier of the first and takes its place. -/
theorem identifier_taken :
    (fullSecond ++ [firstSecond]).Pairwise (fun a b => a.seconds ≤ b.seconds) ∧ ∃ t after,
      (Worker.after Paging.default 0 0 fullSecond).perform Paging.default firstSecond = (.ok (.task t), after) ∧
        t.id ∈ (Worker.after Paging.default 0 0 fullSecond).store ∧
        after.store.size = (Worker.after Paging.default 0 0 fullSecond).store.size := by
  have hclock : (fullSecond ++ [firstSecond]).Pairwise (fun a b => a.seconds ≤ b.seconds) := by
    rw [fullSecond, ← List.replicate_succ', List.pairwise_replicate]
    exact .inr (Nat.le_refl _)
  have hmem := (Worker.fresh_mem_store_after Paging.default 0 0 fullSecond firstSecond).mpr recurs_fullSecond
  refine ⟨hclock, ?_⟩
  generalize Worker.after Paging.default 0 0 fullSecond = before at hmem ⊢
  obtain ⟨t, after, h⟩ := Worker.exists_task Paging.default before draws_firstSecond
  obtain ⟨hid, hs⟩ := Worker.of_perform_create Paging.default rfl h
  rw [← hid] at hmem
  refine ⟨t, after, h, hmem, ?_⟩
  rw [hs, Std.ExtTreeMap.size_insert, if_pos]
  simpa using hmem

end TaskLifecycle
