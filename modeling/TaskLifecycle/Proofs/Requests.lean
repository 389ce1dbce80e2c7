import TaskLifecycle.Database
import TaskLifecycle.Proofs.Run

/-!
# TaskLifecycle.Proofs.Requests — requests that are refused whatever is stored

Some faults lie in the request: an update that updates nothing, an address, a JSON value, a number of steps or a page that
is not allowed.  They are found before anything that is stored is looked at, in a process and over a database alike.

* `Operation.Refused`: the requests that are refused, each with its fault; `Store.perform_of_refused`,
  `Pool.perform_of_refused`: so they are, by every store and over every database.
* `Store.refused_of_perform`: a store answers a fault of the request to no other requests.
* `Pool.perform_of_closed`: what a closed pool answers is `Operation.unreachable`; `Operation.unreachable_cases`: that it
  cannot be reached, the fault of a refused request, or no tasks where none are asked for.
* `refused_alike`: so both refuse the same requests for the same faults.
-/

namespace TaskLifecycle

/-- Whether the request itself is the cause. -/
def Fault.isRequest : Fault → Bool
  | .input _ | .emptyChange _ => true
  | .notFound _ | .refused _ _ | .poolClosed => false

/-- The requests that are refused whatever is stored, each with its fault. -/
inductive Operation.Refused (paging : Paging) : Operation → Fault → Prop
  | create {d : Draft} {fault : Input.Fault} (h : d.prepare = .error fault) : Refused paging (.create d) (.input fault)
  | list {l : Listing} {fault : Input.Fault} (h : l.check paging.maxSize = .error fault) :
    Refused paging (.list l) (.input fault)
  | update {id : String} {scope : Option String} {c : Change} {fault : Fault} (h : Store.prepare id c = .error fault) :
    Refused paging (.update id scope c) fault

variable {paging : Paging} {step : Step} {fault : Fault}

/-! ## Tasks in a process -/

namespace Store

variable (s : Store)

/-- A refused request leaves the store as it is. -/
theorem perform_of_refused (h : step.operation.Refused paging fault) : s.perform paging step = (.error fault, s) := by
  obtain ⟨op, now, fresh⟩ := step
  cases h with
  | create h => simp only [perform, Store.create, h, written]
  | list h => simp only [perform, Store.list, h]; rfl
  | update h => simp only [perform, Store.update, h, written]

theorem refused_of_perform (hf : fault.isRequest = true) (h : (s.perform paging step).1 = .error fault) :
    step.operation.Refused paging fault := by
  obtain ⟨op, now, fresh⟩ := step
  cases op with
  | create d =>
    simp only [perform, Store.create] at h
    cases hd : d.prepare with
    | ok d' => rw [hd] at h; cases h
    | error e => rw [hd] at h; cases h; exact .create hd
  | list l =>
    simp only [perform, Store.list] at h
    cases hl : l.check paging.maxSize with
    | ok _ => rw [hl] at h; cases h
    | error e => rw [hl] at h; cases h; exact .list hl
  | update id scope c =>
    simp only [perform, Store.update] at h
    cases hc : prepare id c with
    | error e => rw [hc] at h; cases h; exact .update hc
    | ok c' =>
      -- what is left are the faults that a stored task gives
      rw [hc] at h
      cases ht : s.find id scope with
      | none => simp only [ht] at h; cases h; cases hf
      | some t =>
        cases hr : t.check c' with
        | error refusal => simp only [ht, hr] at h; cases h; cases hf
        | ok _ => simp only [ht, hr] at h; cases h
  | clearReason id scope =>
    simp only [perform, Store.clearReason] at h
    cases ht : s.find id scope with
    | none => rw [ht] at h; cases h; cases hf
    | some t => rw [ht] at h; cases h
  | find | findAll | count => cases h

end Store

/-! ## Tasks in a database -/

namespace Pool

variable (p : Pool)

/-- A refused request is refused before a connection is asked for. -/
theorem perform_of_refused (h : step.operation.Refused paging fault) : p.perform paging step = .error fault := by
  obtain ⟨op, now, fresh⟩ := step
  cases h with
  | create h => simp only [perform, Pool.create, h]; rfl
  | list h => simp only [perform, Pool.list, h]; rfl
  | update h => simp only [perform, Pool.update, h]; rfl

variable {p}

theorem perform_of_closed (hp : p.acquire = .error .poolClosed) :
    p.perform paging step = step.operation.unreachable paging := by
  obtain ⟨op, now, fresh⟩ := step
  cases op with
  | create d =>
    simp only [perform, Pool.create, hp, Operation.unreachable]
    cases d.prepare <;> rfl
  | list l =>
    simp only [perform, Pool.list, hp, Operation.unreachable]
    cases l.check paging.maxSize <;> rfl
  | update id scope c =>
    simp only [perform, Pool.update, hp, Operation.unreachable]
    cases Store.prepare id c <;> rfl
  | findAll ids scope =>
    cases ids with
    | nil => rfl
    | cons id ids => simp only [perform, Pool.findAll, hp, List.isEmpty_cons]; rfl
  | find id scope => simp only [perform, Pool.find, hp]; rfl
  | count f => simp only [perform, Pool.count, hp]; rfl
  | clearReason id scope => simp only [perform, Pool.clearReason, hp]; rfl

end Pool

theorem Operation.unreachable_cases (paging : Paging) (op : Operation) :
    op.unreachable paging = .error .poolClosed ∨
    (∃ fault, op.Refused paging fault ∧ op.unreachable paging = .error fault) ∨
    ∃ scope, op = .findAll [] scope ∧ op.unreachable paging = .ok (.tasks []) := by
  cases op with
  | create d =>
    cases hd : d.prepare with
    | ok d' => exact .inl (by simp only [unreachable, hd])
    | error e => exact .inr (.inl ⟨_, .create hd, by simp only [unreachable, hd]⟩)
  | list l =>
    cases hl : l.check paging.maxSize with
    | ok _ => exact .inl (by simp only [unreachable, hl])
    | error e => exact .inr (.inl ⟨_, .list hl, by simp only [unreachable, hl]⟩)
  | update id scope c =>
    cases hc : Store.prepare id c with
    | ok c' => exact .inl (by simp only [unreachable, hc])
    | error e => exact .inr (.inl ⟨_, .update hc, by simp only [unreachable, hc]⟩)
  | findAll ids scope =>
    cases ids with
    | nil => exact .inr (.inr ⟨scope, rfl, rfl⟩)
    | cons => exact .inl rfl
  | find | count | clearReason => exact .inl rfl

/-! ## Both -/

/-- A closed pool answers that it is closed, or what every store answers; and where a store answers a fault of the request,
every database and every store answers it, and nothing is changed. -/
theorem refused_alike (paging : Paging) (step : Step) :
    (∀ p : Pool, p.acquire = .error .poolClosed → p.perform paging step ≠ .error .poolClosed →
      ∀ s : Store, (s.perform paging step).1 = p.perform paging step) ∧
    ∀ (s : Store) (fault : Fault), fault.isRequest = true → (s.perform paging step).1 = .error fault →
      (∀ p : Pool, p.perform paging step = .error fault) ∧ ∀ s' : Store, s'.perform paging step = (.error fault, s') := by
  refine ⟨fun p hp hne s => ?_, fun s fault hf h => ?_⟩
  · have hclosed : p.perform paging step = step.operation.unreachable paging := Pool.perform_of_closed hp
    rw [hclosed] at hne ⊢
    rcases step.operation.unreachable_cases paging with h | ⟨fault, href, h⟩ | ⟨scope, hop, h⟩
    · exact absurd h hne
    · rw [s.perform_of_refused href, h]
    · rw [h]
      simp only [Store.perform, hop]
      rfl
  · have href : step.operation.Refused paging fault := s.refused_of_perform hf h
    exact ⟨fun p => p.perform_of_refused href, fun s' => s'.perform_of_refused href⟩

/-- An update that asks for a negative number of steps. -/
def negativeRequest : Step where
  operation := .update "tsk_1" none { Change.empty with maxSteps := some (-1) }
  now := .inMinute 0
  fresh := "tsk_2"

/-- An update that updates nothing. -/
def emptyRequest : Step where
  operation := .update "tsk_1" none Change.empty
  now := .inMinute 0
  fresh := "tsk_2"

theorem refused_alike_emptyRequest :
    (∀ s : Store, (s.perform Paging.default negativeRequest).1 = .error (.input .negativeSteps)) ∧
      (∀ p : Pool, p.perform Paging.default emptyRequest = .error (.emptyChange "tsk_1")) ∧
        ∀ s : Store, s.perform Paging.default emptyRequest = (.error (.emptyChange "tsk_1"), s) :=
  ⟨(refused_alike Paging.default negativeRequest).1 Pool.closed rfl nofun,
    (refused_alike Paging.default emptyRequest).2 Store.empty (.emptyChange "tsk_1") rfl rfl⟩

end TaskLifecycle
