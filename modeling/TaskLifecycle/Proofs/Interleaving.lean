import TaskLifecycle.Proofs.Frame

/-!
# TaskLifecycle.Proofs.Interleaving — in which order the steps on different tasks are taken

Creating, looking up, updating and clearing are about one task each.  Such a step reads and writes the row of its task and
no other, so a run is, task by task, the run of the steps on that task.

* `Store.perform_congr`: the answer to a step and the row that it leaves depend on the row of its target only.
* `Store.exchanges`: the steps of a run with their answers; `Store.exchanges_on`: those on one task are what the steps on
  it alone would give.
* `answers_of_interleaving`: runs that differ in the order of steps on different tasks leave equal stores and answer every
  step alike.
-/

namespace TaskLifecycle

/-- Whether a step is about the task with this identifier. -/
def Step.isOn (id : String) (step : Step) : Bool :=
  step.target == some id

/-- Lists of elements with keys are permutations of each other if they have the same elements under every key. -/
theorem perm_of_filter_eq {α κ : Type} [DecidableEq κ] {l l' : List α} (key : α → Option κ)
    (hl : ∀ a ∈ l, (key a).isSome = true) (hl' : ∀ a ∈ l', (key a).isSome = true)
    (h : ∀ k, l.filter (key · == some k) = l'.filter (key · == some k)) : l.Perm l' := by
  classical
  have count_eq : ∀ {a k} (l : List α), key a = some k → l.count a = (l.filter (key · == some k)).count a := by
    intro a k l hk
    exact (List.count_filter (p := (key · == some k)) (beq_iff_eq.mpr hk)).symm
  rw [List.perm_iff_count]
  intro a
  cases hk : key a with
  | some k => rw [count_eq l hk, count_eq l' hk, h k]
  | none =>
    have absent : ∀ l : List α, (∀ b ∈ l, (key b).isSome = true) → a ∉ l := by
      intro l hl hmem
      have hkey := hl a hmem
      rw [hk] at hkey
      cases hkey
    rw [List.count_eq_zero_of_not_mem (absent l hl), List.count_eq_zero_of_not_mem (absent l' hl')]

namespace Store

variable {s s' : Store} {step : Step} {id : String}

/-! ## One step -/

theorem find_congr (h : s[id]? = s'[id]?) (scope : Option String) : s.find id scope = s'.find id scope := by
  unfold find
  rw [h]

/-- The answer to a step on one task and the row that it leaves depend on the row of the task only. -/
theorem perform_congr (paging : Paging) (hid : step.target = some id) (h : s[id]? = s'[id]?) :
    (s.perform paging step).1 = (s'.perform paging step).1 ∧
      (s.perform paging step).2[id]? = (s'.perform paging step).2[id]? := by
  have inserted : ∀ key t, (s.insert key t)[id]? = (s'.insert key t)[id]? := by
    intro key t
    rw [getElem?_insert, getElem?_insert, h]
  unfold perform
  rw [Step.target] at hid
  cases op : step.operation with
  | create d =>
    dsimp only [create]
    cases d.prepare with
    | error fault => exact ⟨rfl, h⟩
    | ok d' => exact ⟨rfl, inserted _ _⟩
  | find key scope =>
    rw [op] at hid
    obtain rfl : key = id := Option.some.inj hid
    exact ⟨by dsimp only; rw [find_congr h], h⟩
  | update key scope c =>
    rw [op] at hid
    obtain rfl : key = id := Option.some.inj hid
    dsimp only [update]
    rw [find_congr h]
    cases prepare key c with
    | error fault => exact ⟨rfl, h⟩
    | ok c =>
      dsimp only
      cases s'.find key scope with
      | none => exact ⟨rfl, h⟩
      | some t =>
        dsimp only
        cases t.check c with
        | error refusal => exact ⟨rfl, h⟩
        | ok _ => exact ⟨rfl, inserted _ _⟩
  | clearReason key scope =>
    rw [op] at hid
    obtain rfl : key = id := Option.some.inj hid
    dsimp only [clearReason]
    rw [find_congr h]
    cases s'.find key scope with
    | none => exact ⟨rfl, h⟩
    | some t => exact ⟨rfl, inserted _ _⟩
  | findAll | list | count => rw [op] at hid; cases hid

/-! ## Runs -/

/-- The steps of a run with their answers. -/
def exchanges (paging : Paging) (s : Store) (steps : List Step) : List (Step × Except Fault Answer) :=
  steps.zip (s.run paging steps).1

theorem exchanges_cons (paging : Paging) (s : Store) (step : Step) (rest : List Step) :
    s.exchanges paging (step :: rest) =
      (step, (s.perform paging step).1) :: (s.perform paging step).2.exchanges paging rest := rfl

theorem mem_of_mem_exchanges {paging : Paging} {steps : List Step} {entry : Step × Except Fault Answer}
    (h : entry ∈ s.exchanges paging steps) : entry.1 ∈ steps :=
  (List.of_mem_zip h).1

/-- What a run makes of one task is what the steps on it make of it alone. -/
theorem exchanges_on (paging : Paging) (id : String) (steps : List Step) (h : s[id]? = s'[id]?) :
    (s.exchanges paging steps).filter (·.1.isOn id) = s'.exchanges paging (steps.filter (·.isOn id)) ∧
      (s.run paging steps).2[id]? = (s'.run paging (steps.filter (·.isOn id))).2[id]? := by
  induction steps generalizing s s' with
  | nil => exact ⟨rfl, h⟩
  | cons step rest ih =>
    rw [exchanges_cons, List.filter_cons, List.filter_cons]
    by_cases hon : step.isOn id = true
    · obtain ⟨hanswer, hrow⟩ := perform_congr paging (beq_iff_eq.mp hon) h
      obtain ⟨hrest, hlast⟩ := ih hrow
      rw [if_pos hon, if_pos hon, exchanges_cons, hanswer, hrest]
      exact ⟨rfl, hlast⟩
    · have hrow : (s.perform paging step).2[id]? = s'[id]? := by
        rw [(effect paging s step).getElem?_of_target fun heq => hon (beq_iff_eq.mpr heq), h]
      rw [if_neg hon, if_neg hon]
      exact ih hrow

end Store

/-- From every store, two runs of the same steps on single tasks, in which the steps on each task come in the same order:
the stores they leave are equal, and every step is answered alike in both; on each task the steps and their answers are
the same one after another. -/
theorem answers_of_interleaving (paging : Paging) (s : Store) {steps steps' : List Step} (hsame : steps.Perm steps')
    (hsingle : ∀ step ∈ steps, step.target.isSome = true)
    (horder : ∀ id, steps.filter (·.isOn id) = steps'.filter (·.isOn id)) :
    (s.run paging steps).2 = (s.run paging steps').2 ∧
      (s.exchanges paging steps).Perm (s.exchanges paging steps') ∧
      ∀ id, (s.exchanges paging steps).filter (·.1.isOn id) = (s.exchanges paging steps').filter (·.1.isOn id) := by
  have halike : ∀ id, (s.exchanges paging steps).filter (·.1.isOn id) = (s.exchanges paging steps').filter (·.1.isOn id) ∧
      (s.run paging steps).2[id]? = (s.run paging steps').2[id]? := by
    intro id
    obtain ⟨hentries, hrow⟩ := Store.exchanges_on paging id steps (Eq.refl s[id]?)
    obtain ⟨hentries', hrow'⟩ := Store.exchanges_on paging id steps' (Eq.refl s[id]?)
    rw [hentries, hentries', hrow, hrow', horder id]
    exact ⟨rfl, rfl⟩
  refine ⟨Std.ExtTreeMap.ext_getElem? fun id => (halike id).2, ?_, fun id => (halike id).1⟩
  refine perm_of_filter_eq (fun entry => entry.1.target) ?_ ?_ fun id => (halike id).1
  · exact fun entry h => hsingle entry.1 (Store.mem_of_mem_exchanges h)
  · exact fun entry h => hsingle entry.1 (hsame.mem_iff.mpr (Store.mem_of_mem_exchanges h))

/-- One task is created, queued and looked up; then another one is created and cannot complete. -/
def calmRun : List Step := [
  ⟨.create (Draft.ofUrl "http://[::1]"), Moment.inMinute 0, "tsk_1"⟩,
  ⟨.update "tsk_1" none (Change.toStatus .queued none none), Moment.inMinute 1, ""⟩,
  ⟨.find "tsk_1" none, Moment.inMinute 2, ""⟩,
  ⟨.create (Draft.ofUrl "http://[::1]"), Moment.inMinute 3, "tsk_2"⟩,
  ⟨.update "tsk_2" none (Change.toStatus .completed none none), Moment.inMinute 4, ""⟩]

/-- The same steps, those on the two tasks in turn. -/
def turnedRun : List Step :=
  [calmRun[0], calmRun[3], calmRun[1], calmRun[4], calmRun[2]]

/-- The store is the same, and so is what the look-up finds. -/
theorem answers_of_turnedRun :
    calmRun.Perm turnedRun ∧ (∀ step ∈ calmRun, step.target.isSome = true) ∧
      (∀ id, calmRun.filter (·.isOn id) = turnedRun.filter (·.isOn id)) ∧
      (Store.empty.run Paging.default calmRun).2 = (Store.empty.run Paging.default turnedRun).2 ∧
      ∃ t, t.status = .queued ∧
        (calmRun[2], .ok (.found (some t))) ∈ Store.empty.exchanges Paging.default turnedRun := by
  have hmiddle : ([calmRun[1], calmRun[2]] ++ calmRun[3] :: [calmRun[4]]).Perm
      (calmRun[3] :: ([calmRun[1], calmRun[2]] ++ [calmRun[4]])) := List.perm_middle
  have hsame : calmRun.Perm turnedRun :=
    .cons _ (hmiddle.trans (.cons _ (.cons _ (.swap _ _ []))))
  have hsingle : ∀ step ∈ calmRun, step.target.isSome = true := by
    simp only [calmRun, List.forall_mem_cons]
    exact ⟨rfl, rfl, rfl, rfl, rfl, List.forall_mem_nil _⟩
  have horder : ∀ id, calmRun.filter (·.isOn id) = turnedRun.filter (·.isOn id) := by
    intro id
    by_cases h1 : "tsk_1" = id
    · subst h1
      rfl
    · by_cases h2 : "tsk_2" = id
      · subst h2
        rfl
      · simp [calmRun, turnedRun, Step.isOn, Step.target, h1, h2]
  have hfound : ∃ t, t.status = .queued ∧
      (calmRun[2], .ok (.found (some t))) ∈ Store.empty.exchanges Paging.default calmRun :=
    ⟨_, rfl, .tail _ (.tail _ (.head _))⟩
  obtain ⟨hstore, hanswers, -⟩ := answers_of_interleaving Paging.default Store.empty hsame hsingle horder
  obtain ⟨t, ht, hmem⟩ := hfound
  exact ⟨hsame, hsingle, horder, hstore, t, ht, hanswers.mem_iff.mp hmem⟩

end TaskLifecycle
