import TaskLifecycle.Proofs.Course

/-!
# TaskLifecycle.Proofs.Prospect — the final statuses that a task can still come to

A task that has a failure reason cannot fail or be terminated, for such an update brings a reason and a reason is written
once.  A clear of the reason opens the way again.

* `Status.LeadsTo`: the final statuses that a status still leads to; `Status.leadsTo_of_canBecome`: an update opens no others.
* `Operation.way`: operations that bring a task to a status; `Store.status_way`: they do, whatever else the task
  holds; `Operation.length_way_le`: there are three at most.
* `Task.Wedged`: what stays of a task that has a failure reason as long as the reason is not cleared.
* `prospect_of_run`: so the final statuses ahead are those of `Status.LeadsTo`, and a task that has a failure reason neither
  fails nor is terminated before a clear.
-/

namespace TaskLifecycle

/-! ## The table -/

namespace Status

variable {s t f : Status}

/-- A status from which a task can still come to the final status `f`. -/
def LeadsTo (s f : Status) : Prop :=
  s.isFinal = false ∨ s = f ∨ (s = .canceled ∧ f = .completed)

theorem leadsTo_iff : s.LeadsTo f ↔
    s = .created ∨ s = .queued ∨ s = .running ∨ s = f ∨ (s = .canceled ∧ f = .completed) := by
  unfold LeadsTo
  cases s <;> simp [isFinal]

/-- What the next status still leads to, a status leads to. -/
theorem leadsTo_of_canBecome (h : s.canBecome t = true) (ht : t.LeadsTo f) : s.LeadsTo f := by
  by_cases hs : s.isFinal = true
  · obtain ⟨rfl, rfl⟩ := canceled_of_isFinal hs h
    rcases ht with ht | rfl | ⟨hc, -⟩
    · cases ht
    · exact .inr (.inr ⟨rfl, rfl⟩)
    · cases hc
  · exact .inl (by simpa using hs)

/-- Where the table has no edge to a final status that is still ahead, it leads there by way of `running`. -/
theorem canBecome_running (h : s.LeadsTo f) (hf : f.isFinal = true) (hne : s ≠ f) (hedge : s.canBecome f = false) :
    s.canBecome .running = true ∧ running.canBecome f = true := by
  rcases h with h | h | ⟨rfl, rfl⟩
  · cases s <;> cases f <;> first | decide | exact absurd h (by decide) | exact absurd hf (by decide) |
      exact absurd hedge (by decide)
  · exact absurd h hne
  · cases hedge

theorem needsExtract_of_forbidsExtract (h : s.forbidsExtract = true) : s.needsExtract = false := by
  cases s <;> first | rfl | cases h

end Status

/-! ## Ways -/

/-- An update to a status with all that the rules may ask for. -/
def Change.into (s : Status) : Change :=
  toStatus s (if s.needsReason then some "given up" else none) (if s.needsExtract then some .null else none)

namespace Change

theorem prepare_into (id : String) (s : Status) : Store.prepare id (into s) = .ok (into s).cleaned := by
  cases s <;> rfl

/-- A task without a failure reason takes such an update wherever the table allows it. -/
theorem checked_into {t : Task} {s : Status} (hedge : t.status.canBecome s = true) (hreason : t.failureReason = none) :
    t.Checked (into s).cleaned := by
  have hs : ∀ s' ∈ (into s).cleaned.status, s = s' := fun s' h => Option.some.inj h
  refine ⟨fun s' h => ?_, fun s' h hn => ?_, fun s' h hn _ => ?_, fun s' h hn => ?_, .inl hreason⟩
  · rw [← hs s' h]
    exact hedge
  · obtain rfl := hs s' h
    simp [into, toStatus, hn]
  · obtain rfl := hs s' h
    simp [into, toStatus, hn]
  · obtain rfl := hs s' h
    simp [into, toStatus, Status.needsExtract_of_forbidsExtract hn]

end Change

namespace Operation

/-- An update or a clear of the task `id` of an organization. -/
def WritesOn (id : String) (scope : Option String) : Operation → Prop
  | .update key org _ | .clearReason key org => key = id ∧ org = scope
  | .create _ | .find _ _ | .findAll _ _ | .list _ | .count _ => False

theorem WritesOn.draws {id : String} {scope : Option String} {op : Operation} (h : op.WritesOn id scope) :
    op.draws = false := by
  cases op with
  | create => cases h
  | find | findAll | list | count | update | clearReason => rfl

/-- Operations that bring a task of the status `s` to `f`: its failure reason is cleared, and the task is run where the
table asks for that. -/
def way (id : String) (scope : Option String) (s f : Status) : List Operation :=
  if s = f then []
  else .clearReason id scope :: ((if s.canBecome f then [] else [.update id scope (Change.into .running)]) ++
    [.update id scope (Change.into f)])

theorem length_way_le (id : String) (scope : Option String) (s f : Status) : (way id scope s f).length ≤ 3 := by
  unfold way
  split
  · simp
  · split <;> simp

theorem writesOn_of_mem_way {id : String} {scope : Option String} {s f : Status} {op : Operation}
    (h : op ∈ way id scope s f) : op.WritesOn id scope := by
  unfold way at h
  split at h
  · cases h
  · rw [List.mem_cons, List.mem_append, List.mem_singleton] at h
    rcases h with rfl | h | rfl
    · exact ⟨rfl, rfl⟩
    · split at h
      · cases h
      · obtain rfl := List.mem_singleton.mp h
        exact ⟨rfl, rfl⟩
    · exact ⟨rfl, rfl⟩

/-- Operations as the steps of a run, each at the next reading of a clock. -/
def timed (clock : Nat → Moment) : List Operation → List Step
  | [] => []
  | op :: rest => ⟨op, clock 0, ""⟩ :: timed (fun n => clock (n + 1)) rest

theorem drawnIds_timed {id : String} {scope : Option String} (clock : Nat → Moment) {ops : List Operation}
    (h : ∀ op ∈ ops, op.WritesOn id scope) : drawnIds (timed clock ops) = [] := by
  induction ops generalizing clock with
  | nil => rfl
  | cons op rest ih =>
    obtain ⟨hop, hrest⟩ := List.forall_mem_cons.mp h
    rw [timed, drawnIds, List.filter_cons_of_neg (by simp [hop.draws])]
    exact ih (fun n => clock (n + 1)) hrest

end Operation

namespace Store

variable {paging : Paging} {s : Store} {id : String} {t : Task} {f : Status}

theorem getElem?_clear (paging : Paging) (ht : s[id]? = some t) (now : Moment) :
    (s.perform paging ⟨.clearReason id t.organization, now, ""⟩).2[id]? = some (t.withoutReason now) := by
  have hclear : s.clearReason id t.organization now = .ok (t.withoutReason now, s.insert id (t.withoutReason now)) :=
    clearReason_eq_ok_iff.mpr ⟨t, find_eq_some_iff.mpr ⟨ht, rfl⟩, rfl, rfl⟩
  simp only [perform, hclear, written]
  rw [getElem?_insert, if_pos rfl]

theorem getElem?_into (paging : Paging) (ht : s[id]? = some t) (hedge : t.status.canBecome f = true)
    (hreason : t.failureReason = none) (now : Moment) :
    (s.perform paging ⟨.update id t.organization (Change.into f), now, ""⟩).2[id]? =
      some (t.apply (Change.into f).cleaned now) := by
  have hupdate : s.update id t.organization now (Change.into f) =
      .ok (t.apply (Change.into f).cleaned now, s.insert id (t.apply (Change.into f).cleaned now)) :=
    update_eq_ok_iff.mpr ⟨Change.prepare_into id f, t, find_eq_some_iff.mpr ⟨ht, rfl⟩,
      Task.check_eq_ok_iff.mpr (Change.checked_into hedge hreason), rfl, rfl⟩
  simp only [perform, hupdate, written]
  rw [getElem?_insert, if_pos rfl]

/-- A way to a final status that is still ahead leads there, whatever the task holds and the clock reads. -/
theorem status_way (paging : Paging) (ht : s[id]? = some t) (h : t.status.LeadsTo f) (hf : f.isFinal = true)
    (clock : Nat → Moment) :
    ((s.run paging (Operation.timed clock (Operation.way id t.organization t.status f))).2[id]?).map Task.status =
      some f := by
  unfold Operation.way
  by_cases heq : t.status = f
  · rw [if_pos heq]
    show (s[id]?).map Task.status = some f
    rw [ht, Option.map_some, heq]
  · rw [if_neg heq]
    have hcleared := getElem?_clear paging ht (clock 0)
    by_cases hedge : t.status.canBecome f = true
    · rw [if_pos hedge]
      have hclosed := getElem?_into paging hcleared hedge rfl (clock 1)
      exact congrArg (Option.map Task.status) hclosed
    · rw [if_neg hedge]
      obtain ⟨hrun, hclose⟩ := Status.canBecome_running h hf heq (by simpa using hedge)
      have hrunning := getElem?_into paging hcleared hrun rfl (clock 1)
      have hclosed := getElem?_into paging hrunning hclose rfl (clock 2)
      exact congrArg (Option.map Task.status) hclosed

end Store

/-! ## Later rows -/

namespace Task

variable {t t' : Task} {c : Change}

/-- What a task leads to after an update, it led to before. -/
theorem leadsTo_of_apply {now : Moment} {f : Status} (hc : t.Checked c) (h : (t.apply c now).status.LeadsTo f) :
    t.status.LeadsTo f := by
  cases hs : c.status with
  | none =>
    rw [status_apply_none hs] at h
    exact h
  | some s =>
    rw [status_apply_some hs] at h
    exact Status.leadsTo_of_canBecome (hc.edge s hs) h

/-- What stays of a task that has a failure reason: the reason, the organization that may clear it, and that the task has
not failed since nor been terminated. -/
structure Wedged (t t' : Task) : Prop where
  organization : t'.organization = t.organization
  reason : t'.failureReason = t.failureReason
  status : t'.status.needsReason = true → t'.status = t.status

/-- An update that is accepted brings no second reason, so it leads to no status that needs one. -/
theorem Wedged.apply (h : t.Wedged t') (hr : t.failureReason.isSome = true) (hc : t'.Checked c) (now : Moment) :
    t.Wedged (t'.apply c now) := by
  have hnone : c.failureReason = none := by
    refine hc.once.resolve_left fun hn => ?_
    rw [← h.reason, hn] at hr
    cases hr
  refine ⟨h.organization, ?_, fun hneeds => ?_⟩
  · show c.failureReason.or t'.failureReason = t.failureReason
    rw [hnone, Option.none_or, h.reason]
  · cases hs : c.status with
    | none =>
      rw [status_apply_none hs] at hneeds ⊢
      exact h.status hneeds
    | some s =>
      rw [status_apply_some hs] at hneeds
      have hsome := hc.reason s hs hneeds
      rw [hnone] at hsome
      cases hsome

end Task

/-- A task that has a failure reason stays wedged in every run that does not clear it in its own organization. -/
theorem Store.exists_wedged (paging : Paging) {before later : List Step} (hfresh : (drawnIds (before ++ later)).Nodup)
    {id : String} {t : Task} (ht : (after paging before)[id]? = some t) (hr : t.failureReason.isSome = true)
    (hclear : ∀ step ∈ later, step.operation ≠ .clearReason id t.organization) :
    ∃ t', (after paging (before ++ later))[id]? = some t' ∧ t.Wedged t' := by
  induction later using List.reverseRecOn with
  | nil => exact ⟨t, by simpa using ht, rfl, rfl, fun _ => rfl⟩
  | append_singleton later step ih =>
    rw [← List.append_assoc] at hfresh ⊢
    obtain ⟨t', ht', hw⟩ := ih (nodup_of_append hfresh) fun step' h => hclear step' (by simp [h])
    have hnew : step.operation.draws = true → step.fresh ≠ id := by
      rintro hd rfl
      exact fresh_notMem_of_nodup hfresh hd ((mem_after_iff paging _ _).mp (mem_iff_getElem?.mpr ⟨t', ht'⟩))
    rw [after_concat]
    rcases (effect paging _ step).row_cases ht' hnew with hrow | ⟨c, hc, hrow⟩ | ⟨hop, -⟩
    · exact ⟨t', hrow, hw⟩
    · exact ⟨_, hrow, hw.apply hr hc step.now⟩
    · rw [hw.organization] at hop
      exact absurd hop (hclear step (by simp))

/-! ## Runs -/

/-- In every run without repeated identifiers and for every stored task: at most three updates and clears in its own
organization, at whatever readings of the clock, can bring the task to a final status if and only if it is created,
queued or running, or has this status, or is canceled and the status is `completed`.  While the task has a failure
reason, no run that does not clear it there brings it to `failed` or `terminated`. -/
theorem prospect_of_run (paging : Paging) (steps : List Step) (hfresh : (drawnIds steps).Nodup) {id : String} {t : Task}
    (ht : (Store.after paging steps)[id]? = some t) :
    (∀ (f : Status) (clock : Nat → Moment), f.isFinal = true →
      ((∃ ops : List Operation, ops.length ≤ 3 ∧ (∀ op ∈ ops, op.WritesOn id t.organization) ∧
          Store.statusAfter paging id (steps ++ Operation.timed clock ops) = some f) ↔
        t.status = .created ∨ t.status = .queued ∨ t.status = .running ∨ t.status = f ∨
          (t.status = .canceled ∧ f = .completed))) ∧
    (t.failureReason.isSome = true → ∀ later : List Step, (drawnIds (steps ++ later)).Nodup →
      (∀ step ∈ later, step.operation ≠ .clearReason id t.organization) →
        ∃ s, Store.statusAfter paging id (steps ++ later) = some s ∧
          (s = .failed ∨ s = .terminated → t.status = s)) := by
  constructor
  · intro f clock hf
    rw [← Status.leadsTo_iff]
    constructor
    · rintro ⟨ops, -, hops, hstatus⟩
      have hfresh' : (drawnIds (steps ++ Operation.timed clock ops)).Nodup := by
        rw [drawnIds_append, Operation.drawnIds_timed clock hops, List.append_nil]
        exact hfresh
      obtain ⟨t', ht', hleads⟩ := Store.exists_later_row (R := fun t t' => t'.status.LeadsTo f → t.status.LeadsTo f)
        (fun _ h => h) (fun h h' hf => h (h' hf)) (fun _ _ _ => Task.leadsTo_of_apply) (fun _ _ h => h) paging hfresh' ht
      rw [Store.statusAfter, ht', Option.map_some, Option.some.injEq] at hstatus
      exact hleads (.inr (.inl hstatus))
    · intro h
      refine ⟨Operation.way id t.organization t.status f, Operation.length_way_le _ _ _ _,
        fun op => Operation.writesOn_of_mem_way, ?_⟩
      rw [Store.statusAfter, Store.after_append]
      exact Store.status_way paging ht h hf clock
  · intro hr later hfresh' hclear
    obtain ⟨t', ht', hw⟩ := Store.exists_wedged paging hfresh' ht hr hclear
    refine ⟨t'.status, by rw [Store.statusAfter, ht', Option.map_some], fun hs => ?_⟩
    exact (hw.status (Status.needsReason_iff.mpr hs)).symm

/-- A task gets a failure reason while it runs. -/
def wedgedRun : List Step := [
  ⟨.create { Draft.ofUrl "http://[::1]" with extractionGoal := some "price" }, Moment.inMinute 0, "tsk_1"⟩,
  ⟨.update "tsk_1" none { Change.empty with failureReason := some "slow" }, Moment.inMinute 1, ""⟩]

/-- Steps that try to let it fail, and clear it in an organization that does not own it. -/
def strugglingRun : List Step := [
  ⟨.update "tsk_1" none (Change.toStatus .failed (some "no answer") none), Moment.inMinute 2, ""⟩,
  ⟨.clearReason "tsk_1" (some "o_1"), Moment.inMinute 3, ""⟩,
  ⟨.update "tsk_1" none (Change.toStatus .running none none), Moment.inMinute 4, ""⟩,
  ⟨.update "tsk_1" none (Change.toStatus .terminated (some "no answer") none), Moment.inMinute 5, ""⟩]

/-- They do not move it there, though three operations would do so. -/
theorem prospect_of_wedgedRun :
    (drawnIds wedgedRun).Nodup ∧ (drawnIds (wedgedRun ++ strugglingRun)).Nodup ∧
      (∃ t, (Store.after Paging.default wedgedRun)["tsk_1"]? = some t ∧ t.failureReason = some "slow" ∧
        t.organization = none ∧ t.status = .created) ∧
      (∃ ops : List Operation, ops.length ≤ 3 ∧ (∀ op ∈ ops, op.WritesOn "tsk_1" none) ∧
        Store.statusAfter Paging.default "tsk_1" (wedgedRun ++ Operation.timed (fun _ => Moment.inMinute 9) ops) =
          some .terminated) ∧
      ∃ s, Store.statusAfter Paging.default "tsk_1" (wedgedRun ++ strugglingRun) = some s ∧ s ≠ .failed ∧
        s ≠ .terminated := by
  have hids : drawnIds wedgedRun = ["tsk_1"] := rfl
  have hfresh : (drawnIds wedgedRun).Nodup := by rw [hids]; decide
  have hids' : drawnIds (wedgedRun ++ strugglingRun) = ["tsk_1"] := rfl
  have hfresh' : (drawnIds (wedgedRun ++ strugglingRun)).Nodup := by rw [hids']; decide
  obtain ⟨t, ht, hr, ho, hs⟩ : ∃ t, (Store.after Paging.default wedgedRun)["tsk_1"]? = some t ∧
      t.failureReason = some "slow" ∧ t.organization = none ∧ t.status = .created := ⟨_, rfl, rfl, rfl, rfl⟩
  obtain ⟨hways, hstays⟩ := prospect_of_run Paging.default wedgedRun hfresh ht
  obtain ⟨ops, hlength, hops, hstatus⟩ :=
    (hways .terminated (fun _ => Moment.inMinute 9) rfl).mpr (.inl hs)
  rw [ho] at hops
  have hclear : ∀ step ∈ strugglingRun, step.operation ≠ .clearReason "tsk_1" t.organization := by
    rw [ho]
    simp [strugglingRun]
  obtain ⟨s, hs', hstay⟩ := hstays (by rw [hr]; rfl) strugglingRun hfresh' hclear
  refine ⟨hfresh, hfresh', ⟨t, ht, hr, ho, hs⟩, ⟨ops, hlength, hops, hstatus⟩, s, hs', ?_, ?_⟩
  · rintro rfl
    have hfailed := hstay (.inl rfl)
    rw [hs] at hfailed
    cases hfailed
  · rintro rfl
    have hterminated := hstay (.inr rfl)
    rw [hs] at hterminated
    cases hterminated

end TaskLifecycle
