import TaskLifecycle.Proofs.History
import TaskLifecycle.Proofs.Json.Limits
import TaskLifecycle.Proofs.Naming

/-!
# TaskLifecycle.Proofs.Admission — stored tasks pass the checks of inputs

Inputs are checked as they come and stored in another form, with the character U+0000 taken out of their JSON.

* `Input.payload?_clean`, `Input.entries_eq_ok_iff`: a payload that passes its check passes it in the stored form too; a
  list of errors passes if every entry does.
* `Task.Admissible`: everything in a task that inputs are checked for would pass again; `Draft.admissible_task`,
  `Task.Admissible.apply`: new tasks are so, and accepted updates keep them so.
* `admissible_of_run`: so every stored task is, under its own identifier.
-/

namespace TaskLifecycle

/-! ## Checks of inputs -/

namespace Input

theorem payload_eq_ok_iff {field : String} {v : Json} : payload field v = .ok () ↔ v.check = .ok () := by
  unfold payload
  cases v.check <;> simp

/-- What passes the check of a payload passes it in its stored form. -/
theorem payload_clean {field : String} {v : Json} (h : payload field v = .ok ()) : payload field v.clean = .ok () :=
  payload_eq_ok_iff.mpr (Json.check_clean (payload_eq_ok_iff.mp h))

theorem payload?_clean {field : String} {v : Option Json} (h : payload? field v = .ok ()) :
    payload? field (v.map Json.clean) = .ok () := by
  cases v with
  | none => rfl
  | some v => exact payload_clean h

/-- An entry of a list of errors: an object within the limits of JSON. -/
def IsEntry (v : Json) : Prop :=
  v.isObject = true ∧ payload "errors" v = .ok ()

theorem IsEntry.clean {v : Json} (h : IsEntry v) : IsEntry v.clean :=
  ⟨(Json.isObject_clean v).trans h.1, payload_clean h.2⟩

theorem entries_eq_ok_iff {index : Nat} {vs : List Json} : entries index vs = .ok () ↔ ∀ v ∈ vs, IsEntry v := by
  induction vs generalizing index with
  | nil => simp [entries]
  | cons v rest ih =>
    rw [List.forall_mem_cons, ← @ih (index + 1), entries, guard_eq_ok_iff, not_not, IsEntry, and_assoc]
    cases payload "errors" v <;> simp

theorem steps_eq_ok_iff {n : Option Int32} : steps n = .ok () ↔ ∀ k ∈ n, 0 ≤ k.toInt := by
  cases n with
  | none => simp [steps]
  | some k =>
    rw [steps, guard_eq_ok_iff, Int.not_lt]
    simp

end Input

/-- What a prepared draft has passed. -/
theorem Draft.checks_of_prepare {d d' : Draft} (h : d.prepare = .ok d') :
    Input.payload? "navigation_payload" d.payload = .ok () ∧
      Input.payload? "extracted_information_schema" d.schema = .ok () ∧ Input.steps d.maxSteps = .ok () := by
  obtain ⟨_, -, h⟩ := exists_of_bind_eq_ok h
  obtain ⟨_, -, h⟩ := exists_of_bind_eq_ok h
  obtain ⟨_, hpayload, h⟩ := exists_of_bind_eq_ok h
  obtain ⟨_, hschema, h⟩ := exists_of_bind_eq_ok h
  obtain ⟨_, hsteps, -⟩ := exists_of_bind_eq_ok h
  exact ⟨hpayload, hschema, hsteps⟩

/-- What a prepared update has passed. -/
theorem Change.checks_of_prepare {c c' : Change} (h : c.prepare = .ok c') :
    Input.payload? "extracted_information" c.extract = .ok () ∧ entries? c.errors = .ok () ∧
      Input.steps c.maxSteps = .ok () := by
  obtain ⟨_, hextract, h⟩ := exists_of_bind_eq_ok h
  obtain ⟨_, herrors, h⟩ := exists_of_bind_eq_ok h
  obtain ⟨_, hsteps, -⟩ := exists_of_bind_eq_ok h
  exact ⟨hextract, herrors, hsteps⟩

/-! ## Tasks -/

namespace Task

/-- Everything in a task that inputs are checked for would pass the checks again. -/
structure Admissible (t : Task) : Prop where
  payload : Input.payload? "navigation_payload" t.payload = .ok ()
  schema : Input.payload? "extracted_information_schema" t.schema = .ok ()
  extract : Input.payload? "extracted_information" t.extract = .ok ()
  errors : ∀ v ∈ t.errors, v.isObject = true ∧ Input.payload "errors" v = .ok ()
  maxSteps : ∀ n ∈ t.maxSteps, 0 ≤ n.toInt

theorem Admissible.withoutReason {t : Task} (h : t.Admissible) (now : Moment) : (t.withoutReason now).Admissible :=
  ⟨h.payload, h.schema, h.extract, h.errors, h.maxSteps⟩

/-- A prepared update that is applied leaves a task admissible. -/
theorem Admissible.apply {t : Task} {c : Change} (h : t.Admissible) (hc : c.prepare = .ok c.cleaned) (now : Moment) :
    (t.apply c.cleaned now).Admissible := by
  obtain ⟨hextract, herrors, hsteps⟩ := Change.checks_of_prepare hc
  refine ⟨h.payload, h.schema, ?_, ?_, ?_⟩
  · show Input.payload? _ ((c.extract.map Json.clean).or t.extract) = .ok ()
    cases hce : c.extract with
    | none => exact h.extract
    | some v =>
      rw [hce] at hextract
      exact Input.payload_clean hextract
  · show ∀ v ∈ (c.errors.map (·.map Json.clean)).getD t.errors, Input.IsEntry v
    cases hce : c.errors with
    | none => exact h.errors
    | some vs =>
      rw [hce] at herrors
      have hvs : ∀ v ∈ vs, Input.IsEntry v := Input.entries_eq_ok_iff.mp herrors
      rw [Option.map_some, Option.getD_some, List.forall_mem_map]
      exact fun v hv => (hvs v hv).clean
  · show ∀ n ∈ c.maxSteps.or t.maxSteps, 0 ≤ n.toInt
    cases hce : c.maxSteps with
    | none => exact h.maxSteps
    | some k =>
      rw [hce] at hsteps
      exact Input.steps_eq_ok_iff.mp hsteps

end Task

/-- The task of a prepared draft is admissible. -/
theorem Draft.admissible_task {d d' : Draft} (h : d.prepare = .ok d') (id : String) (now : Moment) :
    (d'.task id now).Admissible := by
  obtain ⟨hpayload, hschema, hsteps⟩ := checks_of_prepare h
  obtain ⟨url, webhook, -, -, rfl⟩ := of_prepare_eq_ok h
  refine ⟨Input.payload?_clean hpayload, Input.payload?_clean hschema, rfl, ?_, Input.steps_eq_ok_iff.mp hsteps⟩
  simp [task]

/-! ## Runs -/

/-- Every history leads to an admissible row. -/
theorem Yields.admissible {id : String} {es : List Event} {t : Task} (h : Yields id es (some t)) : t.Admissible := by
  refine h.keeps_prepared ?_ ?_ ?_
  · intro es d d' now ready
    exact Draft.admissible_task ready id now
  · intro es t c now ih ready _
    exact ih.apply ready now
  · intro es t now ih
    exact ih.withoutReason now

/-- In every run, the payload, the schema and the extracted information of a stored task keep the limits of JSON in the
form in which they are stored; its errors are objects that keep them; the number of its steps is not negative; and it
stands under its own identifier. -/
theorem admissible_of_run (paging : Paging) (steps : List Step) {id : String} {t : Task}
    (ht : (Store.after paging steps)[id]? = some t) : t.Admissible ∧ t.id = id := by
  have hy := yields_history paging steps id
  rw [ht] at hy
  exact ⟨hy.admissible, Store.keyed_after paging steps id t ht⟩

/-- A task whose payload has two keys that become one when they are stored, and that is updated with extracted
information, an error and a number of steps before it is closed and cleared. -/
def mergedRun : List Step := [
  ⟨.create { Draft.ofUrl "http://[::1]" with
    payload := some (.object [("a\x00", .string "\x00"), ("a\x00\x00", .array [.null, .string "b\x00"])]) },
    Moment.inMinute 0, "tsk_1"⟩,
  ⟨.update "tsk_1" none { Change.empty with extract := some (.string "4\x002"), maxSteps := some 3 },
    Moment.inMinute 1, ""⟩,
  ⟨.update "tsk_1" none { Change.toStatus .failed (some "no route") none with
    errors := some [.object [("code\x00", .string "\x00")]] }, Moment.inMinute 2, ""⟩,
  ⟨.clearReason "tsk_1" none, Moment.inMinute 3, ""⟩]

/-- The stored payload is the merged one, and it is within the limits, as the error and the extracted information are. -/
theorem admissible_of_mergedRun :
    ∃ t, (Store.after Paging.default mergedRun)["tsk_1"]? = some t ∧
      t.payload = some (.object [("a", .array [.null, .string "b"])]) ∧ t.extract = some (.string "42") ∧
      t.errors = [.object [("code", .string "")]] ∧ t.maxSteps = some 3 ∧ t.Admissible ∧ t.id = "tsk_1" := by
  obtain ⟨t, ht, hpayload, hextract, herrors, hsteps⟩ : ∃ t, (Store.after Paging.default mergedRun)["tsk_1"]? = some t ∧
      t.payload = some (.object [("a", .array [.null, .string "b"])]) ∧ t.extract = some (.string "42") ∧
      t.errors = [.object [("code", .string "")]] ∧ t.maxSteps = some 3 := ⟨_, rfl, rfl, rfl, rfl, rfl⟩
  exact ⟨t, ht, hpayload, hextract, herrors, hsteps, admissible_of_run Paging.default mergedRun ht⟩

end TaskLifecycle
