import TaskLifecycle.Proofs.Address
import TaskLifecycle.Proofs.Clean
import TaskLifecycle.Proofs.History

/-!
# TaskLifecycle.Proofs.Texts — where the character U+0000 can stand

Preparing a draft or an update takes the character out of JSON and brings addresses to a form that does not hold it.  All
other texts are stored as they come.

* `plainTexts`, `preparedTexts`, `texts` of `Draft`, `Change`, `Task`: the texts stored as they come, the others, all.
* `Draft.nulFree_preparedTexts`, `Change.nulFree_preparedTexts`, `Yields.nulFree_preparedTexts`: the others never hold it.
* `nulFree_of_prepare`: so a prepared draft, a prepared update and a stored task hold it if and only if it came with a
  plain text; `nul_stored`: it can.
-/

namespace TaskLifecycle

/-- The character U+0000 occurs in none of several texts. -/
def AllNulFree (texts : List String) : Prop :=
  ∀ s ∈ texts, NulFree s

theorem allNulFree_append {texts others : List String} :
    AllNulFree (texts ++ others) ↔ AllNulFree texts ∧ AllNulFree others :=
  List.forall_mem_append

theorem allNulFree_of_clear {s : String} (h : Clear s.toList) : AllNulFree [s] := by
  intro text htext
  rw [List.mem_singleton.mp htext]
  intro hnul
  exact absurd (h '\x00' hnul) (by decide)

/-! ## Texts -/

namespace Json

/-- The strings and keys of a value, if there is one. -/
def textsOf (v : Option Json) : List String :=
  v.elim [] texts

theorem nulFree_textsOf_clean (v : Option Json) : AllNulFree (textsOf (v.map clean)) := by
  cases v with
  | none => simp [AllNulFree, textsOf]
  | some v => exact nulFree_clean v

theorem nulFree_itemTexts_clean (items : List Json) : AllNulFree (itemTexts (items.map clean)) := by
  rw [← cleanItems_eq_map]
  exact nulFree_cleanItems items

end Json

namespace Draft

/-- The texts of a draft that are stored as they come. -/
def plainTexts (d : Draft) : List String :=
  d.organization.toList ++ d.title.toList ++ d.navigationGoal.toList ++ d.extractionGoal.toList ++
    d.workflowRun.toList ++ d.application.toList

/-- The texts of a draft that are prepared: its addresses and those in its JSON. -/
def preparedTexts (d : Draft) : List String :=
  [d.url] ++ d.webhook.toList ++ Json.textsOf d.payload ++ Json.textsOf d.schema

def texts (d : Draft) : List String :=
  d.plainTexts ++ d.preparedTexts

theorem nulFree_webhook {raw webhook : Option String} (h : webhookUrl raw = .ok webhook) : AllNulFree webhook.toList := by
  cases raw with
  | none =>
    obtain rfl := Except.ok.inj h
    simp [AllNulFree]
  | some raw =>
    rw [webhookUrl] at h
    cases hurl : Input.url "webhook_callback_url" raw with
    | error fault =>
      rw [hurl] at h
      cases h
    | ok url =>
      rw [hurl] at h
      obtain rfl := Except.ok.inj h
      exact allNulFree_of_clear (Input.clear_url hurl)

theorem plainTexts_prepare {d d' : Draft} (h : d.prepare = .ok d') : d'.plainTexts = d.plainTexts := by
  obtain ⟨url, webhook, -, -, rfl⟩ := of_prepare_eq_ok h
  rfl

theorem nulFree_preparedTexts {d d' : Draft} (h : d.prepare = .ok d') : AllNulFree d'.preparedTexts := by
  obtain ⟨url, webhook, hurl, hwebhook, rfl⟩ := of_prepare_eq_ok h
  simp only [preparedTexts, allNulFree_append]
  exact ⟨⟨⟨allNulFree_of_clear (Input.clear_url hurl), nulFree_webhook hwebhook⟩, Json.nulFree_textsOf_clean d.payload⟩,
    Json.nulFree_textsOf_clean d.schema⟩

end Draft

namespace Change

/-- The texts of an update that are stored as they come. -/
def plainTexts (c : Change) : List String :=
  c.failureReason.toList ++ c.webhookFailure.toList

/-- The texts in the JSON of an update. -/
def preparedTexts (c : Change) : List String :=
  Json.textsOf c.extract ++ Json.itemTexts (c.errors.getD [])

def texts (c : Change) : List String :=
  c.plainTexts ++ c.preparedTexts

theorem nulFree_preparedTexts (c : Change) : AllNulFree c.cleaned.preparedTexts := by
  have herrors : AllNulFree (Json.itemTexts (c.cleaned.errors.getD [])) := by
    unfold cleaned
    cases c.errors with
    | none => simp [AllNulFree, Json.itemTexts]
    | some errors => exact Json.nulFree_itemTexts_clean errors
  exact allNulFree_append.mpr ⟨Json.nulFree_textsOf_clean c.extract, herrors⟩

end Change

namespace Task

/-- The texts of a task that have been stored as they came. -/
def plainTexts (t : Task) : List String :=
  [t.id] ++ t.organization.toList ++ t.title.toList ++ t.navigationGoal.toList ++ t.extractionGoal.toList ++
    t.workflowRun.toList ++ t.application.toList ++ t.failureReason.toList ++ t.webhookFailure.toList

/-- The texts of a task that have been prepared: its addresses and those in its JSON. -/
def preparedTexts (t : Task) : List String :=
  [t.url] ++ t.webhook.toList ++ Json.textsOf t.payload ++ Json.textsOf t.schema ++ Json.textsOf t.extract ++
    Json.itemTexts t.errors

def texts (t : Task) : List String :=
  t.plainTexts ++ t.preparedTexts

variable {t : Task} {c : Change} {d : Draft} {id : String} {now : Moment}

theorem preparedTexts_task (d : Draft) (id : String) (now : Moment) :
    (d.task id now).preparedTexts = d.preparedTexts := by
  simp [preparedTexts, Draft.task, Draft.preparedTexts, Json.textsOf, Json.itemTexts]

theorem nulFree_plainTexts_task (hid : NulFree id) (h : AllNulFree d.plainTexts) :
    AllNulFree (d.task id now).plainTexts := by
  have heq : (d.task id now).plainTexts = id :: d.plainTexts := by
    simp [plainTexts, Draft.task, Draft.plainTexts]
  rw [heq]
  exact List.forall_mem_cons.mpr ⟨hid, h⟩

theorem allNulFree_or {s s' : Option String} (h : AllNulFree s.toList) (h' : AllNulFree s'.toList) :
    AllNulFree (s.or s').toList := by
  cases s with
  | none => exact h'
  | some s => exact h

/-- An update puts its own texts into the place of those that were there. -/
theorem nulFree_plainTexts_apply (ht : AllNulFree t.plainTexts) (hc : AllNulFree c.plainTexts) :
    AllNulFree (t.apply c now).plainTexts := by
  simp only [plainTexts, Change.plainTexts, allNulFree_append] at ht hc
  obtain ⟨⟨hfixed, hreason⟩, hwebhook⟩ := ht
  have happly : AllNulFree (c.failureReason.or t.failureReason).toList := allNulFree_or hc.1 hreason
  have happly' : AllNulFree (c.webhookFailure.or t.webhookFailure).toList := allNulFree_or hc.2 hwebhook
  simp only [plainTexts, apply, allNulFree_append]
  exact ⟨⟨hfixed, happly⟩, happly'⟩

theorem nulFree_plainTexts_withoutReason (ht : AllNulFree t.plainTexts) :
    AllNulFree (t.withoutReason now).plainTexts := by
  simp only [plainTexts, allNulFree_append] at ht
  have hnone : AllNulFree (none : Option String).toList := by simp [AllNulFree]
  simp only [plainTexts, withoutReason, allNulFree_append]
  exact ⟨⟨ht.1.1, hnone⟩, ht.2⟩

theorem nulFree_preparedTexts_apply (ht : AllNulFree t.preparedTexts) (hc : AllNulFree c.preparedTexts) :
    AllNulFree (t.apply c now).preparedTexts := by
  simp only [preparedTexts, Change.preparedTexts, allNulFree_append] at ht hc
  obtain ⟨⟨hfixed, hextract⟩, herrors⟩ := ht
  have happly : AllNulFree (Json.textsOf (c.extract.or t.extract)) := by
    cases he : c.extract with
    | none => exact hextract
    | some v =>
      rw [he] at hc
      exact hc.1
  have happly' : AllNulFree (Json.itemTexts (c.errors.getD t.errors)) := by
    cases he : c.errors with
    | none => exact herrors
    | some errors =>
      rw [he] at hc
      exact hc.2
  simp only [preparedTexts, apply, allNulFree_append]
  exact ⟨⟨hfixed, happly⟩, happly'⟩

end Task

/-! ## Runs -/

/-- In every history the prepared texts of the row are free of the character. -/
theorem Yields.nulFree_preparedTexts {id : String} {es : List Event} {t : Task} (h : Yields id es (some t)) :
    AllNulFree t.preparedTexts := by
  refine h.keeps_prepared ?_ ?_ ?_
  · intro es d d' now ready
    rw [Task.preparedTexts_task]
    exact Draft.nulFree_preparedTexts ready
  · intro es t c now ih _ _
    exact Task.nulFree_preparedTexts_apply ih c.nulFree_preparedTexts
  · intro es t now ih
    exact ih

/-- The texts that a step has stored as they come. -/
def Step.plainTexts (step : Step) : List String :=
  match step.operation with
  | .create d => step.fresh :: d.plainTexts
  | .update _ _ c => c.plainTexts
  | .find _ _ | .findAll _ _ | .list _ | .count _ | .clearReason _ _ => []

namespace Store

/-- The plain texts of every stored task are free of the character. -/
def PlainNulFree (s : Store) : Prop :=
  ∀ (id : String) (t : Task), s[id]? = some t → AllNulFree t.plainTexts

theorem PlainNulFree.insert {s : Store} (h : s.PlainNulFree) (key : String) {t : Task} (ht : AllNulFree t.plainTexts) :
    PlainNulFree (s.insert key t) := by
  intro id row hrow
  rw [getElem?_insert] at hrow
  split at hrow
  · rw [← Option.some.inj hrow]
    exact ht
  · exact h id row hrow

/-- A step whose plain texts are free of the character keeps those of the tasks so. -/
theorem Effect.plainNulFree {s s' : Store} {step : Step} {answer : Except Fault Answer} (he : s.Effect step answer s')
    (h : s.PlainNulFree) (hstep : AllNulFree step.plainTexts) : s'.PlainNulFree := by
  cases he with
  | reads | fails => exact h
  | @creates d d' op ready =>
    simp only [Step.plainTexts, op] at hstep
    obtain ⟨hid, hd⟩ := List.forall_mem_cons.mp hstep
    refine h.insert _ (Task.nulFree_plainTexts_task hid ?_)
    rw [Draft.plainTexts_prepare ready]
    exact hd
  | @changes id scope c t op ready found legal =>
    simp only [Step.plainTexts, op] at hstep
    exact h.insert _ (Task.nulFree_plainTexts_apply (h id t (find_eq_some_iff.mp found).1) hstep)
  | @clears id scope t op found =>
    exact h.insert _ (Task.nulFree_plainTexts_withoutReason (h id t (find_eq_some_iff.mp found).1))

theorem plainNulFree_after (paging : Paging) {steps : List Step} (h : ∀ step ∈ steps, AllNulFree step.plainTexts) :
    (after paging steps).PlainNulFree := by
  induction steps using List.reverseRecOn with
  | nil =>
    intro id t ht
    rw [show after paging [] = empty from rfl, getElem?_empty] at ht
    cases ht
  | append_singleton steps step ih =>
    rw [after_concat]
    refine (effect paging _ step).plainNulFree (ih fun step' hs => h step' ?_) (h step ?_)
    · exact List.mem_append_left _ hs
    · simp

end Store

/-- A prepared draft and a prepared update are free of the character U+0000 if and only if the plain texts that they came
with are, and a stored task if and only if its own are; in a run whose drafts, updates and identifiers bring it in no
plain text, no stored task holds it anywhere. -/
theorem nulFree_of_prepare (paging : Paging) (steps : List Step) :
    (∀ d d' : Draft, d.prepare = .ok d' → (AllNulFree d'.texts ↔ AllNulFree d.plainTexts)) ∧
    (∀ c c' : Change, c.prepare = .ok c' → (AllNulFree c'.texts ↔ AllNulFree c.plainTexts)) ∧
    (∀ (id : String) (t : Task), (Store.after paging steps)[id]? = some t →
      (AllNulFree t.texts ↔ AllNulFree t.plainTexts)) ∧
    ((∀ step ∈ steps, AllNulFree step.plainTexts) →
      ∀ (id : String) (t : Task), (Store.after paging steps)[id]? = some t → AllNulFree t.texts) := by
  refine ⟨?_, ?_, ?_⟩
  · intro d d' h
    rw [Draft.texts, allNulFree_append, Draft.plainTexts_prepare h]
    exact and_iff_left (Draft.nulFree_preparedTexts h)
  · intro c c' h
    obtain rfl := Change.eq_cleaned h
    rw [Change.texts, allNulFree_append]
    exact and_iff_left c.nulFree_preparedTexts
  · have hrow : ∀ (id : String) (t : Task), (Store.after paging steps)[id]? = some t →
        (AllNulFree t.texts ↔ AllNulFree t.plainTexts) := by
      intro id t ht
      have hy := yields_history paging steps id
      rw [ht] at hy
      rw [Task.texts, allNulFree_append]
      exact and_iff_left hy.nulFree_preparedTexts
    exact ⟨hrow, fun hsteps id t ht => (hrow id t ht).mpr (Store.plainNulFree_after paging hsteps id t ht)⟩

/-- A task whose payload has the character in a key and in a string, and which fails with an error that has it. -/
def nulPayloadRun : List Step := [
  ⟨.create { Draft.ofUrl "http://[::1]/a\x00b" with payload := some (.object [("price\x00", .string "4\x002")]) },
    Moment.inMinute 0, "tsk_1"⟩,
  ⟨.update "tsk_1" none { Change.toStatus .failed (some "no route") none with
    errors := some [.object [("code", .string "\x00")]] }, Moment.inMinute 1, ""⟩]

/-- Nothing of it is stored. -/
theorem nulFree_of_nulPayloadRun :
    (∀ step ∈ nulPayloadRun, AllNulFree step.plainTexts) ∧
      ∃ t, (Store.after Paging.default nulPayloadRun)["tsk_1"]? = some t ∧ t.status = .failed ∧ AllNulFree t.texts := by
  have hsteps : ∀ step ∈ nulPayloadRun, AllNulFree step.plainTexts := by
    simp [nulPayloadRun, Step.plainTexts, Draft.plainTexts, Draft.ofUrl, Change.plainTexts, Change.toStatus, Change.empty,
      AllNulFree, NulFree]
  have hrow : ∃ t, (Store.after Paging.default nulPayloadRun)["tsk_1"]? = some t ∧ t.status = .failed := ⟨_, rfl, rfl⟩
  obtain ⟨t, ht, hs⟩ := hrow
  exact ⟨hsteps, t, ht, hs, (nulFree_of_prepare Paging.default nulPayloadRun).2.2.2 hsteps "tsk_1" t ht⟩

/-- A draft with the character in its title, and an update with it in its failure reason. -/
def titledDraft : Draft :=
  { Draft.ofUrl "http://[::1]" with title := some "a\x00b" }

def reasonedChange : Change :=
  Change.toStatus .failed (some "why\x00") none

/-- Both are prepared as they are, and the task that is created and updated with them holds the character. -/
theorem nul_stored :
    (∃ d', titledDraft.prepare = .ok d' ∧ d'.title = some "a\x00b" ∧ ¬ AllNulFree d'.texts) ∧
      (∃ c', reasonedChange.prepare = .ok c' ∧ c'.failureReason = some "why\x00" ∧ ¬ AllNulFree c'.texts) ∧
      ∃ t, (Store.after Paging.default [⟨.create titledDraft, Moment.inMinute 0, "tsk_1"⟩,
          ⟨.update "tsk_1" none reasonedChange, Moment.inMinute 1, ""⟩])["tsk_1"]? = some t ∧
        t.title = some "a\x00b" ∧ t.failureReason = some "why\x00" ∧ ¬ AllNulFree t.texts := by
  have htitle : ¬ NulFree "a\x00b" := by decide
  have hreason : ¬ NulFree "why\x00" := by decide
  refine ⟨?_, ?_, ?_⟩
  · obtain ⟨d', hd, ht⟩ : ∃ d', titledDraft.prepare = .ok d' ∧ d'.title = some "a\x00b" := ⟨_, rfl, rfl⟩
    refine ⟨d', hd, ht, fun h => htitle (h _ ?_)⟩
    simp [Draft.texts, Draft.plainTexts, ht]
  · obtain ⟨c', hc, hr⟩ : ∃ c', reasonedChange.prepare = .ok c' ∧ c'.failureReason = some "why\x00" := ⟨_, rfl, rfl⟩
    refine ⟨c', hc, hr, fun h => hreason (h _ ?_)⟩
    simp [Change.texts, Change.plainTexts, hr]
  · obtain ⟨t, ht, htitled, hr⟩ : ∃ t, (Store.after Paging.default [⟨.create titledDraft, Moment.inMinute 0, "tsk_1"⟩,
        ⟨.update "tsk_1" none reasonedChange, Moment.inMinute 1, ""⟩])["tsk_1"]? = some t ∧
        t.title = some "a\x00b" ∧ t.failureReason = some "why\x00" := ⟨_, rfl, rfl, rfl⟩
    refine ⟨t, ht, htitled, hr, fun h => htitle (h _ ?_)⟩
    simp [Task.texts, Task.plainTexts, htitled]

end TaskLifecycle
