import TaskLifecycle.Store

/-!
# TaskLifecycle.Proofs.Run — what one step does to a store

* `Store.create_eq_ok_iff`, `Store.update_eq_ok_iff`, `Store.clearReason_eq_ok_iff`: when an operation that writes
  succeeds, and what it writes.
* `Store.Effect`: all that a step may do: it writes one row and answers with it, or it leaves the store as it is.
  `Store.effect`: every step has such an effect.
* `Store.after`: the store after a run that starts with no tasks; it is built up step by step (`after_concat`).
-/

namespace TaskLifecycle

/-- The moments of one minute, by the second, for runs written out by hand. -/
def Moment.inMinute (second : Nat) : Moment where
  year := 2024
  month := 1
  day := 1
  hour := 0
  minute := 0
  second := second % 60
  nano := 0
  isDate := by decide
  isTime := ⟨by decide, by decide, by omega, by decide⟩

/-! ## Prepared drafts and updates -/

/-- The first part of a computation that succeeds has succeeded. -/
theorem exists_of_bind_eq_ok {ε α β : Type} {x : Except ε α} {f : α → Except ε β} {b : β} (h : x.bind f = .ok b) :
    ∃ a, x = .ok a ∧ f a = .ok b := by
  cases x with
  | error e => cases h
  | ok a => exact ⟨a, rfl, h⟩

/-- Preparing a draft brings its addresses to normal form and cleans its JSON. -/
theorem Draft.of_prepare_eq_ok {d d' : Draft} (h : d.prepare = .ok d') :
    ∃ url webhook, Input.url "url" d.url = .ok url ∧ webhookUrl d.webhook = .ok webhook ∧
      d' = { d with url, webhook, payload := d.payload.map Json.clean, schema := d.schema.map Json.clean } := by
  obtain ⟨url, hurl, h⟩ := exists_of_bind_eq_ok h
  obtain ⟨webhook, hwebhook, h⟩ := exists_of_bind_eq_ok h
  obtain ⟨-, -, h⟩ := exists_of_bind_eq_ok h
  obtain ⟨-, -, h⟩ := exists_of_bind_eq_ok h
  obtain ⟨-, -, h⟩ := exists_of_bind_eq_ok h
  exact ⟨url, webhook, hurl, hwebhook, (Except.ok.inj h).symm⟩

namespace Change

/-- The update with its JSON cleaned. -/
def cleaned (c : Change) : Change :=
  { c with extract := c.extract.map Json.clean, errors := c.errors.map (·.map Json.clean) }

@[simp] theorem cleaned_status (c : Change) : c.cleaned.status = c.status := rfl

@[simp] theorem cleaned_extract (c : Change) : c.cleaned.extract = c.extract.map Json.clean := rfl

@[simp] theorem cleaned_failureReason (c : Change) : c.cleaned.failureReason = c.failureReason := rfl

/-- Preparing an update only cleans it. -/
theorem eq_cleaned {c d : Change} (h : c.prepare = .ok d) : d = c.cleaned := by
  obtain ⟨-, -, h⟩ := exists_of_bind_eq_ok h
  obtain ⟨-, -, h⟩ := exists_of_bind_eq_ok h
  obtain ⟨-, -, h⟩ := exists_of_bind_eq_ok h
  exact (Except.ok.inj h).symm

end Change

namespace Store

variable {s s' : Store} {id : String} {scope : Option String} {now : Moment} {c : Change} {t : Task}

theorem prepare_eq_ok {c' : Change} (h : prepare id c = .ok c') :
    c.isEmpty = false ∧ c.prepare = .ok c' ∧ c' = c.cleaned := by
  unfold prepare at h
  split at h
  · cases h
  · rename_i hne
    cases hc : c.prepare with
    | error fault => rw [hc] at h; cases h
    | ok d =>
      rw [hc] at h
      obtain rfl : d = c' := Except.ok.inj h
      exact ⟨by simpa using hne, rfl, Change.eq_cleaned hc⟩

/-! ## Rows -/

theorem find_eq_some_iff : s.find id scope = some t ↔ s[id]? = some t ∧ t.organization = scope := by
  simp [find, Option.filter_eq_some_iff, Task.inScope]

theorem getElem?_insert (s : Store) (key id : String) (t : Task) :
    (s.insert key t)[id]? = if key = id then some t else s[id]? := by
  rw [Std.ExtTreeMap.getElem?_insert]
  simp only [Std.LawfulEqCmp.compare_eq_iff_eq]

theorem getElem?_empty (id : String) : empty[id]? = none :=
  Std.ExtTreeMap.getElem?_empty

/-! ## Operations that write -/

theorem create_eq_ok_iff {d : Draft} :
    s.create id now d = .ok (t, s') ↔
      ∃ d', d.prepare = .ok d' ∧ t = d'.task id now ∧ s' = s.insert id (d'.task id now) := by
  unfold create
  cases d.prepare with
  | error fault => simp
  | ok d' =>
    simp only [Except.ok.injEq, Prod.mk.injEq, exists_eq_left']
    exact and_congr eq_comm eq_comm

theorem update_eq_ok_iff {t' : Task} :
    s.update id scope now c = .ok (t', s') ↔
      prepare id c = .ok c.cleaned ∧
        ∃ t, s.find id scope = some t ∧ t.check c.cleaned = .ok () ∧ t' = t.apply c.cleaned now ∧
          s' = s.insert id (t.apply c.cleaned now) := by
  unfold update
  cases hp : prepare id c with
  | error fault => simp
  | ok c' =>
    obtain ⟨-, -, rfl⟩ := prepare_eq_ok hp
    simp only [true_and]
    cases hf : s.find id scope with
    | none => simp
    | some t =>
      simp only [Option.some.injEq, exists_eq_left']
      cases hc : t.check c.cleaned with
      | error refusal => simp
      | ok _ =>
        simp only [Except.ok.injEq, Prod.mk.injEq, true_and]
        exact and_congr eq_comm eq_comm

theorem update_eq_error {refusal : Refusal} (ready : prepare id c = .ok c.cleaned) (found : s.find id scope = some t)
    (hc : t.check c.cleaned = .error refusal) : s.update id scope now c = .error (.refused t.id refusal) := by
  simp only [update, ready, found, hc]

theorem update_eq_ok (ready : prepare id c = .ok c.cleaned) (found : s.find id scope = some t)
    (hc : t.check c.cleaned = .ok ()) :
    s.update id scope now c = .ok (t.apply c.cleaned now, s.insert id (t.apply c.cleaned now)) :=
  update_eq_ok_iff.mpr ⟨ready, t, found, hc, rfl, rfl⟩

theorem clearReason_eq_ok_iff {t' : Task} :
    s.clearReason id scope now = .ok (t', s') ↔
      ∃ t, s.find id scope = some t ∧ t' = t.withoutReason now ∧ s' = s.insert id (t.withoutReason now) := by
  unfold clearReason
  cases s.find id scope with
  | none => simp
  | some t =>
    simp only [Except.ok.injEq, Prod.mk.injEq, Option.some.injEq, exists_eq_left']
    exact and_congr eq_comm eq_comm

end Store

/-! ## Steps -/

/-- Operations that only read. -/
def Operation.reads : Operation → Bool
  | .find _ _ | .findAll _ _ | .list _ | .count _ => true
  | .create _ | .update _ _ _ | .clearReason _ _ => false

namespace Store

/-- What a step does to a store, with its answer. -/
inductive Effect (s : Store) (step : Step) : Except Fault Answer → Store → Prop
  | reads {answer : Except Fault Answer} (h : step.operation.reads = true) : Effect s step answer s
  | fails {fault : Fault} : Effect s step (.error fault) s
  | creates {d d' : Draft} (op : step.operation = .create d) (ready : d.prepare = .ok d') :
      Effect s step (.ok (.task (d'.task step.fresh step.now)))
        (s.insert step.fresh (d'.task step.fresh step.now))
  | changes {id : String} {scope : Option String} {c : Change} {t : Task} (op : step.operation = .update id scope c)
      (ready : prepare id c = .ok c.cleaned) (found : s.find id scope = some t) (legal : t.check c.cleaned = .ok ()) :
      Effect s step (.ok (.task (t.apply c.cleaned step.now))) (s.insert id (t.apply c.cleaned step.now))
  | clears {id : String} {scope : Option String} {t : Task} (op : step.operation = .clearReason id scope)
      (found : s.find id scope = some t) :
      Effect s step (.ok (.task (t.withoutReason step.now))) (s.insert id (t.withoutReason step.now))

/-- Every step has one of the effects. -/
theorem effect (paging : Paging) (s : Store) (step : Step) :
    Effect s step (s.perform paging step).1 (s.perform paging step).2 := by
  unfold perform
  cases op : step.operation with
  | create d =>
    dsimp only
    cases h : s.create step.fresh step.now d with
    | error fault => exact .fails
    | ok r =>
      obtain ⟨d', ready, ht, hs⟩ := create_eq_ok_iff.mp h
      rw [show r = (_, _) from Prod.ext ht hs]
      exact .creates op ready
  | update id scope c =>
    dsimp only
    cases h : s.update id scope step.now c with
    | error fault => exact .fails
    | ok r =>
      obtain ⟨ready, t, found, legal, ht, hs⟩ := update_eq_ok_iff.mp h
      rw [show r = (_, _) from Prod.ext ht hs]
      exact .changes op ready found legal
  | clearReason id scope =>
    dsimp only
    cases h : s.clearReason id scope step.now with
    | error fault => exact .fails
    | ok r =>
      obtain ⟨t, found, ht, hs⟩ := clearReason_eq_ok_iff.mp h
      rw [show r = (_, _) from Prod.ext ht hs]
      exact .clears op found
  | find | findAll | list | count => exact .reads (by rw [op]; rfl)

/-! ## Runs -/

theorem run_append (paging : Paging) (s : Store) (first rest : List Step) :
    s.run paging (first ++ rest) =
      ((s.run paging first).1 ++ ((s.run paging first).2.run paging rest).1,
        ((s.run paging first).2.run paging rest).2) := by
  induction first generalizing s with
  | nil => rfl
  | cons step first ih =>
    simp only [List.cons_append, run, ih]

theorem length_answers (paging : Paging) (s : Store) (steps : List Step) :
    (s.run paging steps).1.length = steps.length := by
  induction steps generalizing s with
  | nil => rfl
  | cons step rest ih => simp [run, ih]

/-- The store after a run that starts with no tasks. -/
def after (paging : Paging) (steps : List Step) : Store :=
  (empty.run paging steps).2

theorem after_append (paging : Paging) (steps later : List Step) :
    after paging (steps ++ later) = ((after paging steps).run paging later).2 := by
  simp only [after, run_append]

theorem after_concat (paging : Paging) (steps : List Step) (step : Step) :
    after paging (steps ++ [step]) = ((after paging steps).perform paging step).2 := by
  simp only [after, run_append, run]

end Store
end TaskLifecycle
