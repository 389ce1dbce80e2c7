import TaskLifecycle.Proofs.Naming

/-!
# TaskLifecycle.Proofs.Race — updates that race to close one task

Several clients close one task, each with an update that the task would take.  They are answered one after another.

* `Closing`: an update to a final status; `Store.race`: a run of such updates on one task; `wins`: the statuses that the
  successful ones lead to.
* `Task.check_of_isFinal`: a task with a final status refuses an update to another one before anything else is looked at;
  `Task.check_reconciling`: the exception, a canceled task that is completed.
* `Store.Ended`: a task that has been closed; `Store.Ended.late`: how an update is answered that comes after.
* `winners_of_race`: the first update succeeds and all later ones are refused, but for a cancel that is completed.
-/

namespace TaskLifecycle

/-- An update to a final status, with the clock reading at which it is made. -/
structure Closing where
  change : Change
  now : Moment
  target : Status
  leads : change.status = some target
  final : target.isFinal = true

namespace Closing

/-- The update as a step on the task `id` of an organization. -/
def step (id : String) (scope : Option String) (u : Closing) : Step where
  operation := .update id scope u.change
  now := u.now
  fresh := ""

/-- Whether the update completes a task that has the status `s` because it was canceled. -/
def Reconciles (u : Closing) (s : Status) : Prop :=
  s = .canceled ∧ u.target = .completed

instance (u : Closing) (s : Status) : Decidable (u.Reconciles s) :=
  inferInstanceAs (Decidable (_ ∧ _))

end Closing

/-- The statuses to which the successful ones of some updates lead, in the order of the updates. -/
def wins (us : List Closing) (answers : List (Except Fault Answer)) : List Status :=
  (us.zip answers).filterMap fun e => if e.2.isOk then some e.1.target else none

/-! ## Updates of closed tasks -/

namespace Task

variable {t : Task} {c : Change} {target : Status}

/-- A task with a final status refuses an update to another status by the table, whatever else the update brings. -/
theorem check_of_isFinal (ht : t.status.isFinal = true) (hs : c.status = some target)
    (hbar : ¬ (t.status = .canceled ∧ target = .completed)) :
    t.check c = .error (.transition (.between t.status target)) := by
  have hno : ¬ t.standing.status.canBecome target = true := fun h => hbar (Status.canceled_of_isFinal ht h)
  simp only [check, hs, Standing.checkUpdate]
  rw [if_pos hno]
  rfl

/-- A canceled task takes an update to `completed` that brings what its goal asks for, unless both have a failure
reason. -/
theorem check_reconciling (ht : t.status = .canceled) (hs : c.status = some .completed)
    (hgoal : t.standing.hasGoal = true → c.extract.isSome = true) :
    t.check c = if t.failureReason.isSome ∧ c.failureReason.isSome then .error .reasonAlreadySet else .ok () := by
  have hedge : t.status.canBecome .completed = true := by
    rw [ht]
    rfl
  have hreason : ¬ (Status.completed.needsReason = true ∧ c.failureReason.isNone = true) := by
    rintro ⟨h, -⟩
    cases h
  have hextract : ¬ (Status.completed.needsExtract = true ∧ t.standing.hasGoal = true ∧ c.extract.isNone = true) := by
    rintro ⟨-, hg, hn⟩
    rw [Option.isNone_iff_eq_none.mp hn] at hgoal
    cases hgoal hg
  have hforbidden : ¬ (Status.completed.forbidsExtract = true ∧ c.extract.isSome = true) := by
    rintro ⟨h, -⟩
    cases h
  rw [check_of_some hs, if_neg (not_not_intro hedge), if_neg hreason, if_neg hextract, if_neg hforbidden]

end Task

namespace Store

variable {s : Store} {t row : Task} {u : Closing}

theorem perform_closing (paging : Paging) (s : Store) (id : String) (scope : Option String) (u : Closing) :
    s.perform paging (u.step id scope) = s.written (s.update id scope u.now u.change) := rfl

/-! ## The first update -/

/-- Whether an update of the task `id` of an organization would succeed if it came now. -/
def Takes (paging : Paging) (s : Store) (id : String) (scope : Option String) (u : Closing) : Prop :=
  ∃ row, (s.perform paging (u.step id scope)).1 = .ok (.task row)

/-- What is known of an update that the task `t` would take. -/
structure Ready (t : Task) (u : Closing) : Prop where
  prepared : prepare t.id u.change = .ok u.change.cleaned
  checked : t.Checked u.change.cleaned

theorem Takes.ready {paging : Paging} (h : Takes paging s t.id t.organization u) (ht : s[t.id]? = some t) : Ready t u := by
  obtain ⟨row, hrow⟩ := h
  rw [perform_closing] at hrow
  cases hu : s.update t.id t.organization u.now u.change with
  | error fault => rw [hu] at hrow; cases hrow
  | ok r =>
    obtain ⟨prepared, t', found, legal, -⟩ := update_eq_ok_iff.mp hu
    obtain rfl : t = t' := Option.some.inj (ht.symm.trans (find_eq_some_iff.mp found).1)
    exact ⟨prepared, Task.check_eq_ok_iff.mp legal⟩

/-- A ready update that comes first is taken. -/
theorem Ready.first (paging : Paging) (h : Ready t u) (ht : s[t.id]? = some t) :
    s.perform paging (u.step t.id t.organization) =
      (.ok (.task (t.apply u.change.cleaned u.now)), s.insert t.id (t.apply u.change.cleaned u.now)) := by
  rw [perform_closing, update_eq_ok h.prepared (find_eq_some_iff.mpr ⟨ht, rfl⟩) (Task.check_eq_ok_iff.mpr h.checked)]
  rfl

/-! ## Later updates -/

/-- The task `t` has been closed; `row` is what became of it. -/
structure Ended (s : Store) (t row : Task) : Prop where
  stored : s[t.id]? = some row
  sameId : row.id = t.id
  sameOrganization : row.organization = t.organization
  sameGoal : row.extractionGoal = t.extractionGoal
  final : row.status.isFinal = true

/-- A store in which an update to a final status has just been written. -/
theorem ended_insert (s : Store) (u : Closing) (hid : row.id = t.id) (horganization : row.organization = t.organization)
    (hgoal : row.extractionGoal = t.extractionGoal) :
    Ended (s.insert t.id (row.apply u.change.cleaned u.now)) t (row.apply u.change.cleaned u.now) := by
  refine ⟨?_, hid, horganization, hgoal, ?_⟩
  · rw [getElem?_insert, if_pos rfl]
  · rw [Task.status_apply_some (c := u.change.cleaned) u.leads]
    exact u.final

/-- How an update to a final status is answered that meets a closed task: the table refuses it; or it completes a canceled
task; or it would, but brings a second failure reason. -/
inductive Late (s : Store) (t row : Task) (u : Closing) : Except Fault Answer × Store → Prop
  | barred (h : ¬ u.Reconciles row.status) :
      Late s t row u (.error (.refused t.id (.transition (.between row.status u.target))), s)
  | completes (h : u.Reconciles row.status) (hr : ¬ (row.failureReason.isSome ∧ u.change.failureReason.isSome)) :
      Late s t row u (.ok (.task (row.apply u.change.cleaned u.now)), s.insert t.id (row.apply u.change.cleaned u.now))
  | secondReason (h : u.Reconciles row.status) (hr : row.failureReason.isSome ∧ u.change.failureReason.isSome) :
      Late s t row u (.error (.refused t.id .reasonAlreadySet), s)

namespace Ended

/-- Every later update is answered in one of these ways. -/
theorem late (paging : Paging) (h : Ended s t row) (hu : Ready t u) :
    Late s t row u (s.perform paging (u.step t.id t.organization)) := by
  have hfound : s.find t.id t.organization = some row := find_eq_some_iff.mpr ⟨h.stored, h.sameOrganization⟩
  have hs : u.change.cleaned.status = some u.target := u.leads
  rw [perform_closing]
  by_cases hr : u.Reconciles row.status
  · obtain ⟨hrow, htarget⟩ := hr
    rw [htarget] at hs
    -- The update brings what the goal asks for: it was ready for `t`, and the goal has stayed.
    have hgoal : row.standing.hasGoal = true → u.change.cleaned.extract.isSome = true := by
      intro hg
      have htg : t.standing.hasGoal = true := by
        rw [← hg]
        simp only [Standing.hasGoal, Task.standing, h.sameGoal]
      exact hu.checked.extract .completed hs rfl htg
    have hc := Task.check_reconciling hrow hs hgoal
    split at hc
    · rename_i hboth
      rw [update_eq_error hu.prepared hfound hc, h.sameId]
      exact .secondReason ⟨hrow, htarget⟩ hboth
    · rename_i hone
      rw [update_eq_ok hu.prepared hfound hc]
      exact .completes ⟨hrow, htarget⟩ hone
  · rw [update_eq_error hu.prepared hfound (Task.check_of_isFinal h.final hs hr), h.sameId]
    exact .barred hr

/-- A later update leaves the task closed. -/
theorem next {r : Except Fault Answer × Store} (h : Ended s t row) (hl : Late s t row u r) :
    ∃ row', Ended r.2 t row' := by
  cases hl with
  | barred | secondReason => exact ⟨row, h⟩
  | completes => exact ⟨_, ended_insert s u h.sameId h.sameOrganization h.sameGoal⟩

end Ended

/-! ## Races -/

/-- Updates of one task to final statuses, answered one after another. -/
def race (paging : Paging) (s : Store) (id : String) (scope : Option String) (us : List Closing) :
    List (Except Fault Answer) × Store :=
  s.run paging (us.map (Closing.step id scope))

theorem race_cons (paging : Paging) (s : Store) (id : String) (scope : Option String) (u : Closing) (us : List Closing) :
    s.race paging id scope (u :: us) =
      ((s.perform paging (u.step id scope)).1 :: ((s.perform paging (u.step id scope)).2.race paging id scope us).1,
        ((s.perform paging (u.step id scope)).2.race paging id scope us).2) := rfl

namespace Ended

variable {us : List Closing}

/-- Later updates leave the task closed. -/
theorem after_race (paging : Paging) (h : Ended s t row) (hus : ∀ u ∈ us, Ready t u) :
    ∃ row', Ended (s.race paging t.id t.organization us).2 t row' := by
  induction us generalizing s row with
  | nil => exact ⟨row, h⟩
  | cons u us ih =>
    obtain ⟨row', h'⟩ := h.next (h.late paging (hus u (by simp)))
    rw [race_cons]
    exact ih h' fun v hv => hus v (by simp [hv])

/-- No later update succeeds, unless the task was canceled. -/
theorem wins_eq_nil (paging : Paging) (h : Ended s t row) (hus : ∀ u ∈ us, Ready t u) (hne : row.status ≠ .canceled) :
    wins us (s.race paging t.id t.organization us).1 = [] := by
  induction us with
  | nil => rfl
  | cons u us ih =>
    have hl := h.late paging (hus u (by simp))
    rw [race_cons]
    generalize s.perform paging (u.step t.id t.organization) = r at hl
    cases hl with
    | barred => exact ih fun v hv => hus v (by simp [hv])
    | completes hr | secondReason hr => exact absurd hr.1 hne

/-- At most one later update succeeds, and it completes the task. -/
theorem wins_eq (paging : Paging) (h : Ended s t row) (hus : ∀ u ∈ us, Ready t u) :
    wins us (s.race paging t.id t.organization us).1 = [] ∨
      wins us (s.race paging t.id t.organization us).1 = [.completed] := by
  induction us generalizing s with
  | nil => exact .inl rfl
  | cons u us ih =>
    have hrest : ∀ v ∈ us, Ready t v := fun v hv => hus v (by simp [hv])
    have hl := h.late paging (hus u (by simp))
    rw [race_cons]
    generalize s.perform paging (u.step t.id t.organization) = r at hl
    cases hl with
    | barred | secondReason => exact ih h hrest
    | completes hr =>
      -- The task is completed now, so nothing after this succeeds.
      right
      have hend := ended_insert s u h.sameId h.sameOrganization h.sameGoal
      have hst : (row.apply u.change.cleaned u.now).status = .completed := by
        rw [Task.status_apply_some (c := u.change.cleaned) u.leads, hr.2]
      have hnil := hend.wins_eq_nil paging hrest (by rw [hst]; decide)
      show u.target :: wins us _ = _
      rw [hnil, hr.2]

end Ended

/-- Once the first of some ready updates has come, the task is closed. -/
theorem exists_ended (paging : Paging) {first : Closing} {others : List Closing} (ht : s[t.id]? = some t)
    (hus : ∀ u ∈ first :: others, Ready t u) :
    ∃ row, Ended (s.race paging t.id t.organization (first :: others)).2 t row := by
  have hend := ended_insert (t := t) s first rfl rfl rfl
  rw [race_cons, (hus first (by simp)).first paging ht]
  exact hend.after_race paging fun v hv => hus v (by simp [hv])

/-- Of some ready updates the first succeeds, and a second one only if it completes the task that the first has
canceled. -/
theorem wins_of_ready (paging : Paging) {first : Closing} {others : List Closing} (ht : s[t.id]? = some t)
    (hus : ∀ u ∈ first :: others, Ready t u) :
    wins (first :: others) (s.race paging t.id t.organization (first :: others)).1 = [first.target] ∨
      wins (first :: others) (s.race paging t.id t.organization (first :: others)).1 = [.canceled, .completed] := by
  have hend := ended_insert (t := t) s first rfl rfl rfl
  have hothers : ∀ v ∈ others, Ready t v := fun v hv => hus v (by simp [hv])
  have hst : (t.apply first.change.cleaned first.now).status = first.target :=
    Task.status_apply_some (c := first.change.cleaned) first.leads
  rw [race_cons, (hus first (by simp)).first paging ht]
  show first.target :: wins others _ = _ ∨ first.target :: wins others _ = _
  by_cases hcanceled : first.target = .canceled
  · rcases hend.wins_eq paging hothers with hw | hw
    · exact .inl (by rw [hw])
    · exact .inr (by rw [hw, hcanceled])
  · exact .inl (by rw [hend.wins_eq_nil paging hothers (by rw [hst]; exact hcanceled)])

end Store

/-- In every run and for every stored task: of some updates to final statuses, each of which would succeed if it came
first, the first one to come succeeds, in whatever order they come.  Every later one is refused by the table of statuses
and leaves the store as it is, unless it completes the canceled task; then it succeeds, or is refused because a failure
reason would be written twice.  So one update succeeds, or a cancel does and after it a completion. -/
theorem winners_of_race (paging : Paging) (steps : List Step) {id : String} {t : Task}
    (ht : (Store.after paging steps)[id]? = some t) {calls order : List Closing}
    (hcalls : ∀ u ∈ calls, Store.Takes paging (Store.after paging steps) id t.organization u)
    (horder : order.Perm calls) :
    (∀ earlier u later, order = earlier ++ u :: later →
      ∀ s, ((Store.after paging steps).race paging id t.organization earlier).2 = s →
        (earlier = [] → ∃ row, (s.perform paging (u.step id t.organization)).1 = .ok (.task row)) ∧
        (earlier ≠ [] → ∃ row, s[id]? = some row ∧ row.status.isFinal = true ∧
          (¬ u.Reconciles row.status → s.perform paging (u.step id t.organization) =
            (.error (.refused id (.transition (.between row.status u.target))), s)) ∧
          (u.Reconciles row.status →
            if row.failureReason.isSome ∧ u.change.failureReason.isSome then
              s.perform paging (u.step id t.organization) = (.error (.refused id .reasonAlreadySet), s)
            else ∃ row', (s.perform paging (u.step id t.organization)).1 = .ok (.task row')))) ∧
      (order ≠ [] →
        (∃ target, wins order ((Store.after paging steps).race paging id t.organization order).1 = [target]) ∨
          wins order ((Store.after paging steps).race paging id t.organization order).1 = [.canceled, .completed]) := by
  obtain rfl : t.id = id := Store.keyed_after paging steps id t ht
  have hready : ∀ u ∈ order, Store.Ready t u := fun u hu => (hcalls u (horder.mem_iff.mp hu)).ready ht
  constructor
  · rintro earlier u later rfl s rfl
    cases earlier with
    | nil => exact ⟨fun _ => hcalls u (horder.mem_iff.mp (by simp)), fun h => absurd rfl h⟩
    | cons first others =>
      refine ⟨fun h => absurd h (by simp), fun _ => ?_⟩
      obtain ⟨row, hrow⟩ := Store.exists_ended paging ht
        fun v (hv : v ∈ first :: others) => hready v (List.mem_append_left _ hv)
      refine ⟨row, hrow.stored, hrow.final, ?_⟩
      have hl := hrow.late paging (hready u (by simp))
      generalize Store.perform paging _ (u.step t.id t.organization) = r at hl ⊢
      cases hl with
      | barred hr => exact ⟨fun _ => rfl, fun h => absurd h hr⟩
      | completes hr hone => exact ⟨fun h => absurd hr h, fun _ => by rw [if_neg hone]; exact ⟨_, rfl⟩⟩
      | secondReason hr hboth => exact ⟨fun h => absurd hr h, fun _ => by rw [if_pos hboth]⟩
  · intro hne
    obtain ⟨first, others, rfl⟩ := List.exists_cons_of_ne_nil hne
    rcases Store.wins_of_ready paging ht hready with hw | hw
    · exact .inl ⟨first.target, hw⟩
    · exact .inr hw

/-- A task that runs. -/
def runningRun : List Step := [
  ⟨.create (Draft.ofUrl "http://[::1]"), Moment.inMinute 0, "tsk_1"⟩,
  ⟨.update "tsk_1" none (Change.toStatus .running none none), Moment.inMinute 1, ""⟩]

/-- Updates that complete the running task, let it fail and cancel it. -/
def completing : Closing :=
  ⟨Change.toStatus .completed none none, Moment.inMinute 2, .completed, rfl, rfl⟩

def failing : Closing :=
  ⟨Change.toStatus .failed (some "no answer") none, Moment.inMinute 2, .failed, rfl, rfl⟩

def canceling : Closing :=
  ⟨Change.toStatus .canceled none none, Moment.inMinute 2, .canceled, rfl, rfl⟩

/-- Where the cancel comes first, the failure is refused; one of the updates succeeds, or the cancel and the completion
do. -/
theorem winners_of_runningRun :
    (∀ u ∈ [completing, failing, canceling],
        Store.Takes Paging.default (Store.after Paging.default runningRun) "tsk_1" none u) ∧
      [canceling, failing, completing].Perm [completing, failing, canceling] ∧
      (∃ s, ((Store.after Paging.default runningRun).race Paging.default "tsk_1" none [canceling]).2 = s ∧
        s.perform Paging.default (failing.step "tsk_1" none) =
          (.error (.refused "tsk_1" (.transition (.alreadyCanceled .failed))), s)) ∧
      ((∃ target, wins [canceling, failing, completing] ((Store.after Paging.default runningRun).race Paging.default
          "tsk_1" none [canceling, failing, completing]).1 = [target]) ∨
        wins [canceling, failing, completing] ((Store.after Paging.default runningRun).race Paging.default
          "tsk_1" none [canceling, failing, completing]).1 = [.canceled, .completed]) := by
  obtain ⟨t, ht, horganization⟩ : ∃ t, (Store.after Paging.default runningRun)["tsk_1"]? = some t ∧
      t.organization = none := ⟨_, rfl, rfl⟩
  have hcalls : ∀ u ∈ [completing, failing, canceling],
      Store.Takes Paging.default (Store.after Paging.default runningRun) "tsk_1" none u := by
    intro u hu
    simp only [List.mem_cons, List.not_mem_nil, or_false] at hu
    rcases hu with rfl | rfl | rfl
    · exact ⟨_, rfl⟩
    · exact ⟨_, rfl⟩
    · exact ⟨_, rfl⟩
  have horder : [canceling, failing, completing].Perm [completing, failing, canceling] :=
    List.reverse_perm [completing, failing, canceling]
  have h := winners_of_race Paging.default runningRun ht (by rw [horganization]; exact hcalls) horder
  rw [horganization] at h
  obtain ⟨row, hrow, -, hbarred, -⟩ := (h.1 [canceling] failing [completing] rfl _ rfl).2 (by simp)
  have hst : ∃ row, ((Store.after Paging.default runningRun).race Paging.default "tsk_1" none
      [canceling]).2["tsk_1"]? = some row ∧ row.status = .canceled := ⟨_, rfl, rfl⟩
  obtain ⟨row', hrow', hcanceled⟩ := hst
  obtain rfl : row' = row := Option.some.inj (hrow'.symm.trans hrow)
  rw [hcanceled] at hbarred
  exact ⟨hcalls, horder, ⟨_, rfl, hbarred (by decide)⟩, h.2 (by simp)⟩

/-- Both the cancel and the completion succeed. -/
example : wins [canceling, failing, completing] ((Store.after Paging.default runningRun).race Paging.default
    "tsk_1" none [canceling, failing, completing]).1 = [.canceled, .completed] := rfl

end TaskLifecycle
