import Mathlib.Data.List.DropRight
import TaskLifecycle.Proofs.Rules
import TaskLifecycle.Proofs.Run

/-!
# TaskLifecycle.Proofs.History — the history of one task in a run

Requests and answers of a run tell which writes succeeded on a task; they determine its row.

* `Event`: a write that succeeded; `Event.of?`: the event on a task that a request and its answer show.
* `Store.history`: the events on a task in a run that starts with no tasks.
* `Yields id es r`: the events `es` on the task `id`, each accepted by the row it meets, lead to the row `r`.
  `yields_history`: in every run the history of a task yields its row.
* `Yields.keeps`: what holds of new rows and is kept by accepted updates and by clears holds of every row;
  `Yields.keeps_prepared`: the same, where it matters that drafts and updates have been prepared.
-/

namespace TaskLifecycle

/-- A write that succeeded on a task: its creation as a row, an update, or a clear of its failure reason. -/
inductive Event where
  | created (row : Task)
  | changed (change : Change) (now : Moment)
  | cleared (now : Moment)

namespace Event

/-- The event on the task `id` that a request shows together with its answer. -/
def of? (id : String) (step : Step) : Except Fault Answer → Option Event
  | .ok (.task t) =>
    match step.operation with
    | .create _ => if step.fresh = id then some (.created t) else none
    | .update key _ c => if key = id then some (.changed c step.now) else none
    | .clearReason key _ => if key = id then some (.cleared step.now) else none
    | .find _ _ | .findAll _ _ | .list _ | .count _ => none
  | _ => none

def moment : Event → Moment
  | .created row => row.created
  | .changed _ now | .cleared now => now

/-- A request that only reads shows no event. -/
theorem of?_reads {step : Step} (id : String) (answer : Except Fault Answer) (h : step.operation.reads = true) :
    of? id step answer = none := by
  unfold of?
  split
  · cases op : step.operation with
    | create | update | clearReason => rw [op] at h; cases h
    | find | findAll | list | count => rfl
  · rfl

/-- An event has the moment of its step. -/
theorem moment_of? {id : String} {s s' : Store} {step : Step} {answer : Except Fault Answer} {e : Event}
    (he : s.Effect step answer s') (h : of? id step answer = some e) : e.moment = step.now := by
  cases he with
  | reads hr => rw [of?_reads id answer hr] at h; cases h
  | fails => cases h
  | creates op _ =>
    simp only [of?, op, Option.ite_none_right_eq_some, Option.some.injEq] at h
    rw [← h.2]
    rfl
  | changes op _ _ _ | clears op _ =>
    simp only [of?, op, Option.ite_none_right_eq_some, Option.some.injEq] at h
    rw [← h.2]
    rfl

def isCreated : Event → Bool
  | .created _ => true
  | _ => false

def isCleared : Event → Bool
  | .cleared _ => true
  | _ => false

end Event

/-! ## Histories -/

/-- The events after the last one for which `p` holds. -/
def since (p : Event → Bool) (es : List Event) : List Event :=
  es.rtakeWhile (fun e => !p e)

theorem since_concat_pos {p : Event → Bool} (es : List Event) {e : Event} (h : p e = true) :
    since p (es ++ [e]) = [] :=
  List.rtakeWhile_concat_neg _ _ _ (by simp [h])

theorem since_concat_neg {p : Event → Bool} (es : List Event) {e : Event} (h : p e = false) :
    since p (es ++ [e]) = since p es ++ [e] :=
  List.rtakeWhile_concat_pos _ _ _ (by simp [h])

theorem since_append {p : Event → Bool} (es : List Event) {es' : List Event} (h : ∀ e ∈ es', p e = false) :
    since p (es ++ es') = since p es ++ es' := by
  induction es' using List.reverseRecOn with
  | nil => simp
  | append_singleton es' e ih =>
    rw [← List.append_assoc, since_concat_neg _ (h e (by simp)), ih fun e' h' => h e' (by simp [h']),
      List.append_assoc]

namespace Store

/-- The steps of a run that starts with no tasks, each with its answer. -/
def transcript (paging : Paging) (steps : List Step) : List (Step × Except Fault Answer) :=
  steps.zip (empty.run paging steps).1

/-- The events on the task `id` in a run that starts with no tasks. -/
def history (paging : Paging) (steps : List Step) (id : String) : List Event :=
  (transcript paging steps).filterMap fun entry => Event.of? id entry.1 entry.2

theorem transcript_concat (paging : Paging) (steps : List Step) (step : Step) :
    transcript paging (steps ++ [step]) =
      transcript paging steps ++ [(step, ((after paging steps).perform paging step).1)] := by
  unfold transcript
  rw [run_append, List.zip_append (length_answers _ _ _).symm]
  rfl

theorem history_concat (paging : Paging) (steps : List Step) (step : Step) (id : String) :
    history paging (steps ++ [step]) id =
      history paging steps id ++ (Event.of? id step ((after paging steps).perform paging step).1).toList := by
  unfold history
  rw [transcript_concat, List.filterMap_append]
  cases h : Event.of? id step ((after paging steps).perform paging step).1 <;> simp [h]

end Store

/-! ## Rows and their histories -/

section Rows

variable {id : String}

/-- The events `es` on the task `id`, each accepted by the row it meets, lead to the row `r`. -/
inductive Yields (id : String) : List Event → Option Task → Prop
  | nil : Yields id [] none
  | created {es : List Event} {r : Option Task} {d d' : Draft} {now : Moment} (before : Yields id es r)
      (ready : d.prepare = .ok d') : Yields id (es ++ [.created (d'.task id now)]) (some (d'.task id now))
  | changed {es : List Event} {t : Task} {c : Change} {now : Moment} (before : Yields id es (some t))
      (ready : Store.prepare id c = .ok c.cleaned) (legal : t.check c.cleaned = .ok ()) :
      Yields id (es ++ [.changed c now]) (some (t.apply c.cleaned now))
  | cleared {es : List Event} {t : Task} {now : Moment} (before : Yields id es (some t)) :
      Yields id (es ++ [.cleared now]) (some (t.withoutReason now))

/-- One step of a run adds its event to the history and to the row alike. -/
theorem Yields.effect {es : List Event} {s s' : Store} {step : Step} {answer : Except Fault Answer}
    (h : Yields id es s[id]?) (he : s.Effect step answer s') :
    Yields id (es ++ (Event.of? id step answer).toList) s'[id]? := by
  cases he with
  | reads hr =>
    rw [Event.of?_reads id answer hr]
    simpa using h
  | fails => simpa [Event.of?] using h
  | creates op ready =>
    rw [Store.getElem?_insert]
    by_cases hk : step.fresh = id
    · subst hk
      simpa [Event.of?, op] using h.created ready
    · simpa [Event.of?, op, hk] using h
  | @changes key scope c t op ready found legal =>
    rw [Store.getElem?_insert]
    by_cases hk : key = id
    · subst hk
      rw [(Store.find_eq_some_iff.mp found).1] at h
      simpa [Event.of?, op] using h.changed ready legal
    · simpa [Event.of?, op, hk] using h
  | @clears key scope t op found =>
    rw [Store.getElem?_insert]
    by_cases hk : key = id
    · subst hk
      rw [(Store.find_eq_some_iff.mp found).1] at h
      simpa [Event.of?, op] using h.cleared
    · simpa [Event.of?, op, hk] using h

/-- In every run the history of a task yields its row. -/
theorem yields_history (paging : Paging) (steps : List Step) (id : String) :
    Yields id (Store.history paging steps id) (Store.after paging steps)[id]? := by
  induction steps using List.reverseRecOn with
  | nil => exact .nil
  | append_singleton steps step ih =>
    rw [Store.history_concat, Store.after_concat]
    exact ih.effect (Store.effect paging _ step)

namespace Yields

variable {es : List Event} {t : Task}

/-- What holds of the rows of prepared drafts and is kept by prepared updates that are accepted and by clears holds of
every row. -/
@[elab_as_elim]
theorem keeps_prepared {P : List Event → Task → Prop} (h : Yields id es (some t))
    (created : ∀ es d d' now, Draft.prepare d = .ok d' → P (es ++ [.created (Draft.task d' id now)]) (d'.task id now))
    (changed : ∀ es t c now, P es t → c.prepare = .ok c.cleaned → t.Checked c.cleaned →
      P (es ++ [.changed c now]) (t.apply c.cleaned now))
    (cleared : ∀ es t now, P es t → P (es ++ [.cleared now]) (t.withoutReason now)) : P es t := by
  generalize hr : some t = r at h
  induction h generalizing t with
  | nil => cases hr
  | created _ ready => cases hr; exact created _ _ _ _ ready
  | changed _ ready legal ih =>
    cases hr
    exact changed _ _ _ _ (ih rfl) (Store.prepare_eq_ok ready).2.1 (Task.check_eq_ok_iff.mp legal)
  | cleared _ ih => cases hr; exact cleared _ _ _ (ih rfl)

/-- What holds of new rows and is kept by accepted updates and by clears holds of every row. -/
@[elab_as_elim]
theorem keeps {P : List Event → Task → Prop} (h : Yields id es (some t))
    (created : ∀ es d now, P (es ++ [.created (Draft.task d id now)]) (d.task id now))
    (changed : ∀ es t c now, P es t → t.Checked c.cleaned → P (es ++ [.changed c now]) (t.apply c.cleaned now))
    (cleared : ∀ es t now, P es t → P (es ++ [.cleared now]) (t.withoutReason now)) : P es t := by
  refine h.keeps_prepared ?_ ?_ cleared
  · intro es _ d now _
    exact created es d now
  · intro es t c now ih _ legal
    exact changed es t c now ih legal

/-- Only an empty history yields no row. -/
theorem exists_row {r : Option Task} (h : Yields id es r) (hes : es ≠ []) : ∃ t, r = some t := by
  cases h with
  | nil => exact absurd rfl hes
  | created | changed | cleared => exact ⟨_, rfl⟩

/-- The events up to any point yield the row at that point. -/
theorem of_append {es' : List Event} {r : Option Task} (h : Yields id (es ++ es') r) : ∃ r', Yields id es r' := by
  induction es' using List.reverseRecOn generalizing r with
  | nil => exact ⟨r, by simpa using h⟩
  | append_singleton es' e ih =>
    rw [← List.append_assoc] at h
    generalize hl : es ++ es' ++ [e] = l at h
    cases h with
    | nil => simp at hl
    | created before _ | changed before _ _ | cleared before =>
      obtain ⟨rfl, -⟩ := List.append_inj' hl rfl
      exact ih before

end Yields
end Rows
end TaskLifecycle
