import Mathlib.Data.List.Induction
import TaskLifecycle.Proofs.Rules
import TaskLifecycle.Proofs.Run
import TaskLifecycle.Worker

/-!
# TaskLifecycle.Proofs.Naming — tasks and their identifiers

A draft that can be prepared draws an identifier, and its task is stored under it.

* `Store.mem_perform_iff`, `Store.mem_after_iff`: a step adds the identifier that it draws and no other, so that a store
  holds the identifiers drawn in its run.
* `Store.Keyed`: every task stands under its own identifier; `Store.keyed_after`: so in every run.
* `Store.Effect.row_cases`: what a step does to one task whose identifier it does not draw again; `Store.exists_later_row`:
  so what accepted updates and clears keep of a row holds between it and every later row of the task.
-/

namespace TaskLifecycle

/-! ## Drawing -/

theorem Operation.draws_create_iff {d : Draft} : (Operation.create d).draws = true ↔ ∃ d', d.prepare = .ok d' := by
  cases h : d.prepare <;> simp [draws, h]

theorem Operation.exists_of_draws {o : Operation} (h : o.draws = true) :
    ∃ d d', o = .create d ∧ d.prepare = .ok d' := by
  cases o with
  | create d =>
    obtain ⟨d', hd⟩ := draws_create_iff.mp h
    exact ⟨d, d', rfl, hd⟩
  | find | findAll | list | count | update | clearReason => cases h

/-- The identifiers that the steps of a run draw. -/
def drawnIds (steps : List Step) : List String :=
  (steps.filter fun step => step.operation.draws).map Step.fresh

theorem drawnIds_append (steps later : List Step) : drawnIds (steps ++ later) = drawnIds steps ++ drawnIds later := by
  simp [drawnIds]

theorem drawnIds_concat (steps : List Step) (step : Step) :
    drawnIds (steps ++ [step]) = drawnIds steps ++ if step.operation.draws then [step.fresh] else [] := by
  cases hd : step.operation.draws <;> simp [drawnIds, hd]

theorem fresh_mem_drawnIds {steps : List Step} {step : Step} (h : step ∈ steps) (hd : step.operation.draws = true) :
    step.fresh ∈ drawnIds steps :=
  List.mem_map_of_mem (List.mem_filter.mpr ⟨h, hd⟩)

/-- A step of a run without repetition draws an identifier that was not drawn before it. -/
theorem fresh_notMem_of_nodup {steps : List Step} {step : Step} (h : (drawnIds (steps ++ [step])).Nodup)
    (hd : step.operation.draws = true) : step.fresh ∉ drawnIds steps := by
  rw [drawnIds_concat, if_pos hd, List.nodup_append] at h
  intro hmem
  exact h.2.2 _ hmem _ (List.mem_singleton.mpr rfl) rfl

theorem nodup_of_append {steps later : List Step} (h : (drawnIds (steps ++ later)).Nodup) : (drawnIds steps).Nodup := by
  rw [drawnIds_append, List.nodup_append] at h
  exact h.1

namespace Store

variable {s s' : Store} {step : Step} {d d' : Draft} {t : Task}

theorem mem_insert (s : Store) (key id : String) (t : Task) : id ∈ s.insert key t ↔ key = id ∨ id ∈ s := by
  rw [Std.ExtTreeMap.mem_insert, Std.LawfulEqCmp.compare_eq_iff_eq]

theorem mem_iff_getElem? {id : String} : id ∈ s ↔ ∃ t, s[id]? = some t := by
  rw [Std.ExtTreeMap.mem_iff_isSome_getElem?, Option.isSome_iff_exists]

theorem mem_of_find {id : String} {scope : Option String} (h : s.find id scope = some t) : id ∈ s :=
  mem_iff_getElem?.mpr ⟨t, (find_eq_some_iff.mp h).1⟩

theorem perform_create (paging : Paging) (s : Store) (op : step.operation = .create d) (ready : d.prepare = .ok d') :
    s.perform paging step =
      (.ok (.task (d'.task step.fresh step.now)), s.insert step.fresh (d'.task step.fresh step.now)) := by
  simp only [perform, op, create, ready, written]

/-- A step that draws no identifier leaves the identifiers of the store as they are. -/
theorem Effect.mem_iff {answer : Except Fault Answer} (h : s.Effect step answer s')
    (hd : step.operation.draws = false) (id : String) : id ∈ s' ↔ id ∈ s := by
  cases h with
  | reads | fails => rfl
  | creates op ready =>
    rw [op, Operation.draws_create_iff.mpr ⟨_, ready⟩] at hd
    cases hd
  | changes _ _ found _ | clears _ found =>
    rw [mem_insert, or_iff_right_iff_imp]
    rintro rfl
    exact mem_of_find found

/-- A step adds the identifier that it draws and no other. -/
theorem mem_perform_iff (paging : Paging) (s : Store) (step : Step) (id : String) :
    id ∈ (s.perform paging step).2 ↔ id ∈ s ∨ step.operation.draws = true ∧ step.fresh = id := by
  by_cases hd : step.operation.draws = true
  · obtain ⟨d, d', op, ready⟩ := Operation.exists_of_draws hd
    rw [perform_create paging s op ready, mem_insert, or_comm]
    simp only [hd, true_and]
  · rw [(effect paging s step).mem_iff (by simpa using hd)]
    simp [hd]

/-- After a run that starts with no tasks, a store holds the identifiers drawn. -/
theorem mem_after_iff (paging : Paging) (steps : List Step) (id : String) :
    id ∈ after paging steps ↔ id ∈ drawnIds steps := by
  induction steps using List.reverseRecOn with
  | nil => simp [after, run, empty, drawnIds]
  | append_singleton steps step ih =>
    rw [after_concat, mem_perform_iff, ih, drawnIds_concat, List.mem_append]
    split
    · rename_i hd
      simp [hd, eq_comm]
    · rename_i hd
      simp [hd]

/-! ## Keys -/

/-- Every task stands under its own identifier. -/
def Keyed (s : Store) : Prop :=
  ∀ (id : String) (t : Task), s[id]? = some t → t.id = id

theorem keyed_empty : empty.Keyed := by
  intro id t h
  rw [getElem?_empty] at h
  cases h

theorem Keyed.insert (h : s.Keyed) (t : Task) : Keyed (s.insert t.id t) := by
  intro id row hrow
  rw [getElem?_insert] at hrow
  split at hrow
  · rename_i hid
    rw [← Option.some.inj hrow, hid]
  · exact h id row hrow

/-- A step keeps every task under its own identifier. -/
theorem Effect.keyed {answer : Except Fault Answer} (he : s.Effect step answer s') (h : s.Keyed) : s'.Keyed := by
  cases he with
  | reads | fails => exact h
  | creates => exact h.insert (Draft.task _ step.fresh step.now)
  | @changes id scope c t _ _ found _ =>
    obtain rfl := h id t (find_eq_some_iff.mp found).1
    exact h.insert (t.apply c.cleaned step.now)
  | @clears id scope t _ found =>
    obtain rfl := h id t (find_eq_some_iff.mp found).1
    exact h.insert (t.withoutReason step.now)

theorem keyed_after (paging : Paging) (steps : List Step) : (after paging steps).Keyed := by
  induction steps using List.reverseRecOn with
  | nil => exact keyed_empty
  | append_singleton steps step ih =>
    rw [after_concat]
    exact (effect paging _ step).keyed ih

/-! ## Rows -/

/-- A step that does not draw the identifier of a task leaves the task, updates it as the rules allow, or is a clear of
its failure reason in its own organization. -/
theorem Effect.row_cases {answer : Except Fault Answer} {id : String} (he : s.Effect step answer s')
    (ht : s[id]? = some t) (hnew : step.operation.draws = true → step.fresh ≠ id) :
    s'[id]? = some t ∨ (∃ c, t.Checked c ∧ s'[id]? = some (t.apply c step.now)) ∨
      (step.operation = .clearReason id t.organization ∧ s'[id]? = some (t.withoutReason step.now)) := by
  cases he with
  | reads | fails => exact .inl ht
  | creates op ready =>
    have hd : step.operation.draws = true := by rw [op]; exact Operation.draws_create_iff.mpr ⟨_, ready⟩
    rw [getElem?_insert, if_neg (hnew hd)]
    exact .inl ht
  | @changes key scope c row op ready found legal =>
    rw [getElem?_insert]
    by_cases hk : key = id
    · subst hk
      obtain rfl : row = t := Option.some.inj ((find_eq_some_iff.mp found).1.symm.trans ht)
      exact .inr (.inl ⟨c.cleaned, Task.check_eq_ok_iff.mp legal, if_pos rfl⟩)
    · rw [if_neg hk]
      exact .inl ht
  | @clears key scope row op found =>
    rw [getElem?_insert]
    by_cases hk : key = id
    · subst hk
      obtain ⟨hrow, rfl⟩ := find_eq_some_iff.mp found
      obtain rfl : row = t := Option.some.inj (hrow.symm.trans ht)
      exact .inr (.inr ⟨op, if_pos rfl⟩)
    · rw [if_neg hk]
      exact .inl ht

/-- A step that does not draw the identifier of a task leaves the task, updates it as the rules allow, or clears its
failure reason. -/
theorem Effect.row {answer : Except Fault Answer} {id : String} (he : s.Effect step answer s') (ht : s[id]? = some t)
    (hnew : step.operation.draws = true → step.fresh ≠ id) :
    s'[id]? = some t ∨ (∃ c, t.Checked c ∧ s'[id]? = some (t.apply c step.now)) ∨
      s'[id]? = some (t.withoutReason step.now) :=
  (he.row_cases ht hnew).imp_right (Or.imp_right And.right)

/-- What accepted updates and clears keep of a row is kept as long as no step draws its identifier again. -/
theorem exists_later_row {R : Task → Task → Prop} (refl : ∀ t, R t t) (trans : ∀ {t t' t''}, R t t' → R t' t'' → R t t'')
    (apply : ∀ t c now, t.Checked c → R t (t.apply c now)) (withoutReason : ∀ t now, R t (t.withoutReason now))
    (paging : Paging) {before later : List Step} (h : (drawnIds (before ++ later)).Nodup) {id : String}
    (ht : (after paging before)[id]? = some t) :
    ∃ t', (after paging (before ++ later))[id]? = some t' ∧ R t t' := by
  induction later using List.reverseRecOn with
  | nil => exact ⟨t, by simpa using ht, refl t⟩
  | append_singleton later step ih =>
    rw [← List.append_assoc] at h ⊢
    obtain ⟨row, hrow, hkept⟩ := ih (nodup_of_append h)
    have hnew : step.operation.draws = true → step.fresh ≠ id := by
      rintro hd rfl
      have hmem : step.fresh ∈ after paging (before ++ later) := mem_iff_getElem?.mpr ⟨row, hrow⟩
      exact fresh_notMem_of_nodup h hd ((mem_after_iff paging _ _).mp hmem)
    rw [after_concat]
    rcases (effect paging _ step).row hrow hnew with hr | ⟨c, hc, hr⟩ | hr
    · exact ⟨row, hr, hkept⟩
    · exact ⟨_, hr, trans hkept (apply row c step.now hc)⟩
    · exact ⟨_, hr, trans hkept (withoutReason row step.now)⟩

end Store
end TaskLifecycle
