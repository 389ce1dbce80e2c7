import TaskLifecycle.Proofs.History
import TaskLifecycle.Proofs.Pages

/-!
# TaskLifecycle.Proofs.Isolation — organizations do not see each other

What an organization is answered depends on its own requests only.

* `Operation.scope`: the organization that an operation is for.
* `Store.Alike`: two stores show an organization the same tasks; `Store.Alike.perform`: then its requests are answered
  alike, and the stores stay alike.
* `Store.Effect.alike`: a request of another organization changes nothing of what it is shown.
* `answers_of_scope`: a run without the requests of others answers all that is left as before.
-/

namespace TaskLifecycle

/-- The organization that an operation is for; none stands for the tasks of no organization. -/
def Operation.scope : Operation → Option String
  | .create d => d.organization
  | .find _ scope | .findAll _ scope | .update _ scope _ | .clearReason _ scope => scope
  | .list l => l.filter.organization
  | .count f => f.organization

theorem Draft.organization_prepare {d d' : Draft} (h : d.prepare = .ok d') : d'.organization = d.organization := by
  obtain ⟨url, webhook, -, -, rfl⟩ := of_prepare_eq_ok h
  rfl

namespace Store

variable {s s' : Store} {scope : Option String} {id : String} {t : Task}

theorem find_insert (s : Store) (key id : String) (t : Task) (scope : Option String) :
    find (s.insert key t) id scope =
      if key = id then (if t.organization = scope then some t else none) else s.find id scope := by
  unfold find
  rw [getElem?_insert]
  split
  · rw [Option.filter_some]
    simp only [Task.inScope, beq_iff_eq]
  · rfl

theorem find_eq_none_of_organization (ht : s[id]? = some t) (hne : t.organization ≠ scope) : s.find id scope = none := by
  rw [Option.eq_none_iff_forall_ne_some]
  intro row hrow
  obtain ⟨hstored, horganization⟩ := find_eq_some_iff.mp hrow
  obtain rfl : t = row := Option.some.inj (ht.symm.trans hstored)
  exact hne horganization

/-- Two stores show an organization the same tasks. -/
def Alike (scope : Option String) (s s' : Store) : Prop :=
  ∀ id, s.find id scope = s'.find id scope

namespace Alike

theorem insert (h : Alike scope s s') (key : String) (t : Task) : Alike scope (s.insert key t) (s'.insert key t) := by
  intro id
  rw [find_insert, find_insert, h id]

/-- Filters of the organization keep the same rows. -/
theorem filter_rows (h : Alike scope s s') (hs : s.Keyed) (hs' : s'.Keyed) {f : Filter} (hf : f.organization = scope) :
    (s.rows.filter f.keeps).Perm (s'.rows.filter f.keeps) := by
  rw [List.perm_ext_iff_of_nodup (hs.nodup_ids.of_map.filter _) (hs'.nodup_ids.of_map.filter _)]
  intro t
  rw [List.mem_filter, List.mem_filter, mem_rows_iff, mem_rows_iff]
  refine and_congr_left fun hkeeps => ?_
  have ht : t.organization = scope := by
    simp only [Filter.keeps, Task.inScope, Bool.and_eq_true, beq_iff_eq] at hkeeps
    rw [← hf]
    exact hkeeps.1.1.1.1
  refine exists_congr fun id => ?_
  have hiff : ∀ s : Store, s[id]? = some t ↔ s.find id scope = some t := fun s => by
    rw [find_eq_some_iff, and_iff_left ht]
  rw [hiff s, hiff s', h id]

/-- A request of the organization is answered alike and leaves the stores alike. -/
theorem perform (paging : Paging) (h : Alike scope s s') (hs : s.Keyed) (hs' : s'.Keyed) {step : Step}
    (hscope : step.operation.scope = scope) :
    (s.perform paging step).1 = (s'.perform paging step).1 ∧
      Alike scope (s.perform paging step).2 (s'.perform paging step).2 := by
  unfold Store.perform
  cases op : step.operation with
  | create d =>
    dsimp only [create]
    cases d.prepare with
    | error fault => exact ⟨rfl, h⟩
    | ok d' => exact ⟨rfl, h.insert _ _⟩
  | find id scope' =>
    rw [op] at hscope
    obtain rfl : scope' = scope := hscope
    exact ⟨by dsimp only; rw [h id], h⟩
  | findAll ids scope' =>
    rw [op] at hscope
    obtain rfl : scope' = scope := hscope
    refine ⟨?_, h⟩
    dsimp only [findAll]
    rw [show (fun id => s.find id scope') = fun id => s'.find id scope' from funext h]
  | list l =>
    rw [op] at hscope
    refine ⟨?_, h⟩
    dsimp only [list]
    rw [Listing.answer, Listing.answer, Listing.arranged_congr hs'.nodup_ids (h.filter_rows hs hs' hscope)]
  | count f =>
    rw [op] at hscope
    refine ⟨?_, h⟩
    dsimp only [count]
    rw [List.countP_eq_length_filter, List.countP_eq_length_filter, (h.filter_rows hs hs' hscope).length_eq]
  | update id scope' c =>
    rw [op] at hscope
    obtain rfl : scope' = scope := hscope
    dsimp only [update]
    rw [h id]
    cases prepare id c with
    | error fault => exact ⟨rfl, h⟩
    | ok c =>
      dsimp only
      cases s'.find id scope' with
      | none => exact ⟨rfl, h⟩
      | some t =>
        dsimp only
        cases t.check c with
        | error refusal => exact ⟨rfl, h⟩
        | ok _ => exact ⟨rfl, h.insert _ _⟩
  | clearReason id scope' =>
    rw [op] at hscope
    obtain rfl : scope' = scope := hscope
    dsimp only [clearReason]
    rw [h id]
    cases s'.find id scope' with
    | none => exact ⟨rfl, h⟩
    | some t => exact ⟨rfl, h.insert _ _⟩

end Alike

/-- A task of another organization is written where the organization is shown nothing. -/
theorem alike_insert (hkey : s.find id scope = none) (hne : t.organization ≠ scope) : Alike scope s (s.insert id t) := by
  intro id'
  rw [find_insert, if_neg hne]
  by_cases hid : id = id'
  · rw [if_pos hid, ← hid, hkey]
  · rw [if_neg hid]

/-- A request of another organization changes nothing of what an organization is shown. -/
theorem Effect.alike {step : Step} {answer : Except Fault Answer} (he : s.Effect step answer s')
    (hscope : step.operation.scope ≠ scope) (hnew : step.operation.draws = true → step.fresh ∉ s) :
    Alike scope s s' := by
  cases he with
  | reads | fails => exact fun _ => rfl
  | @creates d d' op ready =>
    rw [op] at hscope hnew
    -- Were the identifier not fresh, the create would take the place of a task that the organization sees.
    have hnone : s.find step.fresh scope = none := by
      rw [Option.eq_none_iff_forall_ne_some]
      exact fun t ht => hnew (Operation.draws_create_iff.mpr ⟨_, ready⟩) (mem_of_find ht)
    exact alike_insert hnone fun h => hscope ((Draft.organization_prepare ready).symm.trans h)
  | @changes id scope' c t op _ found _ =>
    rw [op] at hscope
    obtain ⟨ht, rfl⟩ := find_eq_some_iff.mp found
    exact alike_insert (find_eq_none_of_organization ht hscope) hscope
  | @clears id scope' t op found =>
    rw [op] at hscope
    obtain ⟨ht, rfl⟩ := find_eq_some_iff.mp found
    exact alike_insert (find_eq_none_of_organization ht hscope) hscope

/-! ## Runs -/

/-- The steps of a run that are for an organization. -/
def stepsFor (scope : Option String) (steps : List Step) : List Step :=
  steps.filter fun step => step.operation.scope == scope

theorem stepsFor_concat_pos {steps : List Step} {step : Step} (h : step.operation.scope = scope) :
    stepsFor scope (steps ++ [step]) = stepsFor scope steps ++ [step] := by
  simp [stepsFor, h]

theorem stepsFor_concat_neg {steps : List Step} {step : Step} (h : step.operation.scope ≠ scope) :
    stepsFor scope (steps ++ [step]) = stepsFor scope steps := by
  simp [stepsFor, h]

/-- An organization is shown the same after a run with and without the steps of others. -/
theorem alike_after (paging : Paging) (scope : Option String) {steps : List Step} (hfresh : (drawnIds steps).Nodup) :
    Alike scope (after paging steps) (after paging (stepsFor scope steps)) := by
  induction steps using List.reverseRecOn with
  | nil => exact fun _ => rfl
  | append_singleton steps step ih =>
    have ih := ih (nodup_of_append hfresh)
    rw [after_concat]
    by_cases h : step.operation.scope = scope
    · rw [stepsFor_concat_pos h, after_concat]
      exact (ih.perform paging (keyed_after paging _) (keyed_after paging _) h).2
    · rw [stepsFor_concat_neg h]
      have hnew : step.operation.draws = true → step.fresh ∉ after paging steps := fun hd => by
        rw [mem_after_iff]
        exact fresh_notMem_of_nodup hfresh hd
      have hsame := (effect paging (after paging steps) step).alike h hnew
      exact fun id => (hsame id).symm.trans (ih id)

end Store

/-- In every run without repeated identifiers and for every organization, or none: without the steps for other
organizations the run answers all steps that are left as it did with them. -/
theorem answers_of_scope (paging : Paging) (steps : List Step) (hfresh : (drawnIds steps).Nodup)
    (scope : Option String) :
    Store.transcript paging (steps.filter fun step => step.operation.scope == scope) =
      (Store.transcript paging steps).filter fun entry => entry.1.operation.scope == scope := by
  induction steps using List.reverseRecOn with
  | nil => rfl
  | append_singleton steps step ih =>
    have hpre := nodup_of_append hfresh
    have ih := ih hpre
    rw [Store.transcript_concat, List.filter_append, List.filter_append, ← ih]
    by_cases h : step.operation.scope = scope
    · have halike := Store.alike_after paging scope hpre
      have hanswer := (halike.perform paging (Store.keyed_after paging _) (Store.keyed_after paging _) h).1
      rw [List.filter_singleton, List.filter_singleton]
      simp only [h, beq_self_eq_true, cond_true]
      rw [Store.transcript_concat, hanswer]
      rfl
    · simp [h]

/-- Two organizations, one of which asks for a task of the other. -/
def strangersRun : List Step := [
  ⟨.create { Draft.ofUrl "http://[::1]" with organization := some "o_1" }, Moment.inMinute 0, "tsk_1"⟩,
  ⟨.create { Draft.ofUrl "http://[::1]" with organization := some "o_2" }, Moment.inMinute 1, "tsk_2"⟩,
  ⟨.update "tsk_1" (some "o_2") (Change.toStatus .running none none), Moment.inMinute 2, ""⟩,
  ⟨.update "tsk_1" (some "o_1") (Change.toStatus .canceled none none), Moment.inMinute 3, ""⟩,
  ⟨.find "tsk_1" (some "o_2"), Moment.inMinute 4, ""⟩,
  ⟨.count (Filter.ofOrganization "o_2"), Moment.inMinute 5, ""⟩]

/-- The other organization's task is not found, whether it is there or not. -/
theorem answers_of_strangersRun :
    (drawnIds strangersRun).Nodup ∧
      (∃ step, step ∈ strangersRun ∧ (step, .error (.notFound "tsk_1")) ∈
        Store.transcript Paging.default (strangersRun.filter fun step => step.operation.scope == some "o_2")) := by
  have hids : drawnIds strangersRun = ["tsk_1", "tsk_2"] := rfl
  have hfresh : (drawnIds strangersRun).Nodup := by rw [hids]; decide
  refine ⟨hfresh, _, .tail _ (.tail _ (.head _)), ?_⟩
  rw [answers_of_scope Paging.default strangersRun hfresh (some "o_2"), List.mem_filter]
  exact ⟨.tail _ (.tail _ (.head _)), by decide⟩

end TaskLifecycle
