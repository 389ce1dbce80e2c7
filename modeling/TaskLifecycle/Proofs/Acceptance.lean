import Mathlib.Order.WellFounded
import TaskLifecycle.Proofs.Preparing

/-!
# TaskLifecycle.Proofs.Acceptance — which updates are accepted, and with which fault the others are refused

* `Need`: what an update needs, in the order in which it is asked for; `Need.Met`: whether a store and an update meet a
  need; `Need.Blames`: the fault that is given where they do not.
* `Need.exists_first`: of some needs that are not met there is a first; `Need.exists_blamed`: a need that is not met has a
  fault.
* `Store.update_of_met`, `Store.update_of_unmet`: an update succeeds where all needs are met, and fails with the fault of
  the first that is not.
* `acceptance_of_needs`: so an update succeeds exactly if all needs are met, what it writes then, and which fault it is
  refused with otherwise.
-/

namespace TaskLifecycle

/-- What an update needs, in the order in which it is asked for. -/
inductive Need where
  | field
  | extractFits
  | errorsFit
  | stepsFit
  | row
  | edge
  | reason
  | extract
  | noExtract
  | once
deriving DecidableEq

/-- The row of a task, as a caller of an organization sees it. -/
def Store.Shows (s : Store) (id : String) (scope : Option String) (t : Task) : Prop :=
  s[id]? = some t ∧ t.organization = scope

theorem Store.Shows.unique {s : Store} {id : String} {scope : Option String} {t t' : Task} (h : s.Shows id scope t)
    (h' : s.Shows id scope t') : t = t' :=
  Option.some.inj (h.1.symm.trans h'.1)

namespace Need

/-- Whether a need is asked for before another. -/
def precedes (a b : Need) : Prop :=
  a.ctorIdx < b.ctorIdx

instance (a b : Need) : Decidable (a.precedes b) :=
  inferInstanceAs (Decidable (_ < _))

section

variable (s : Store) (id : String) (scope : Option String) (c : Change)

/-- Whether a need of the update `c` of the task `id` is met.  What is needed of a row is met where there is none. -/
def Met : Need → Prop
  | .field => c ≠ .empty
  | .extractFits => ∀ v ∈ c.extract, v.check = .ok ()
  | .errorsFit => ∀ vs ∈ c.errors, ∀ v ∈ vs, v.isObject = true ∧ v.check = .ok ()
  | .stepsFit => ∀ n ∈ c.maxSteps, 0 ≤ n.toInt
  | .row => ∃ t, s.Shows id scope t
  | .edge => ∀ t, s.Shows id scope t → ∀ target ∈ c.status, target ∈ t.status.next
  | .reason => ∀ t, s.Shows id scope t → ∀ target ∈ c.status, target = .failed ∨ target = .terminated →
      c.failureReason ≠ none
  | .extract => ∀ t, s.Shows id scope t → ∀ target ∈ c.status, target = .completed →
      t.extractionGoal = none ∨ t.extractionGoal = some "" ∨ c.extract ≠ none
  | .noExtract => ∀ t, s.Shows id scope t → ∀ target ∈ c.status,
      target = .timedOut ∨ target = .completed ∨ target = .canceled ∨ c.extract = none
  | .once => ∀ t, s.Shows id scope t → t.failureReason = none ∨ c.failureReason = none

/-- The fault that is given where a need is not met. -/
inductive Blames : Need → Fault → Prop
  | field : Blames .field (.emptyChange id)
  | extractFits {v : Json} {x : Json.Violation} (given : c.extract = some v) (excess : v.check = .error x) :
    Blames .extractFits (.input (.payload "extracted_information" x))
  | notAnObject {before after : List Json} {v : Json} (given : c.errors = some (before ++ v :: after))
    (fine : ∀ w ∈ before, w.isObject = true ∧ w.check = .ok ()) (kind : v.isObject = false) :
    Blames .errorsFit (.input (.notAnObject before.length))
  | errorsFit {before after : List Json} {v : Json} {x : Json.Violation} (given : c.errors = some (before ++ v :: after))
    (fine : ∀ w ∈ before, w.isObject = true ∧ w.check = .ok ()) (kind : v.isObject = true) (excess : v.check = .error x) :
    Blames .errorsFit (.input (.payload "errors" x))
  | stepsFit : Blames .stepsFit (.input .negativeSteps)
  | row : Blames .row (.notFound id)
  | canceled {t : Task} {target : Status} (shown : s.Shows id scope t) (given : c.status = some target)
    (now : t.status = .canceled) : Blames .edge (.refused t.id (.transition (.alreadyCanceled target)))
  | timedOut {t : Task} {target : Status} (shown : s.Shows id scope t) (given : c.status = some target)
    (now : t.status = .timedOut) : Blames .edge (.refused t.id (.transition .alreadyTimedOut))
  | notAllowed {t : Task} {target : Status} (shown : s.Shows id scope t) (given : c.status = some target)
    (now : t.status ≠ .canceled ∧ t.status ≠ .timedOut) :
    Blames .edge (.refused t.id (.transition (.notAllowed t.status target)))
  | reason {t : Task} {target : Status} (shown : s.Shows id scope t) (given : c.status = some target) :
    Blames .reason (.refused t.id (.missingReason target))
  | extract {t : Task} {target : Status} (shown : s.Shows id scope t) (given : c.status = some target) :
    Blames .extract (.refused t.id (.missingExtract target))
  | noExtract {t : Task} {target : Status} (shown : s.Shows id scope t) (given : c.status = some target) :
    Blames .noExtract (.refused t.id (.unexpectedExtract target))
  | once {t : Task} (shown : s.Shows id scope t) : Blames .once (.refused t.id .reasonAlreadySet)

end

/-! ## The first need that is not met -/

/-- Of some needs that do not have a property there is a first. -/
theorem exists_first {P : Need → Prop} (h : ∃ n, ¬ P n) : ∃ n, ¬ P n ∧ ∀ m, m.precedes n → P m := by
  obtain ⟨n, hn, hleast⟩ := (InvImage.wf Need.ctorIdx Nat.lt_wfRel.wf).has_min {n | ¬ P n} h
  exact ⟨n, hn, fun m hm => not_not.mp fun hP => hleast m hP hm⟩

/-- Of the members of a list that do not have a property there is a first. -/
theorem exists_first_member {α : Type} {P : α → Prop} {xs : List α} (h : ¬ ∀ x ∈ xs, P x) :
    ∃ before x after, xs = before ++ x :: after ∧ (∀ y ∈ before, P y) ∧ ¬ P x := by
  induction xs with
  | nil => simp at h
  | cons first rest ih =>
    by_cases hfirst : P first
    · have hrest : ¬ ∀ x ∈ rest, P x := fun hall => h (List.forall_mem_cons.mpr ⟨hfirst, hall⟩)
      obtain ⟨before, x, after, hxs, hbefore, hx⟩ := ih hrest
      refine ⟨first :: before, x, after, ?_, List.forall_mem_cons.mpr ⟨hfirst, hbefore⟩, hx⟩
      rw [hxs, List.cons_append]
    · exact ⟨[], first, rest, rfl, by simp, hfirst⟩

variable {s : Store} {id : String} {scope : Option String} {c : Change} {need : Need} {fault : Fault}

/-- A need that is not met has a fault. -/
theorem exists_blamed (h : ¬ need.Met s id scope c) : ∃ fault, Blames s id scope c need fault := by
  cases need with
  | field => exact ⟨_, .field⟩
  | extractFits =>
    simp only [Met, not_forall] at h
    obtain ⟨v, given, hv⟩ := h
    cases excess : v.check with
    | ok => exact absurd excess hv
    | error x => exact ⟨_, .extractFits given excess⟩
  | errorsFit =>
    simp only [Met, not_forall] at h
    obtain ⟨vs, given, hvs⟩ := h
    obtain ⟨before, v, after, rfl, fine, hv⟩ := exists_first_member (by simpa only [not_forall] using hvs)
    cases kind : v.isObject with
    | false => exact ⟨_, .notAnObject given fine kind⟩
    | true =>
      cases excess : v.check with
      | ok => exact absurd ⟨kind, excess⟩ hv
      | error x => exact ⟨_, .errorsFit given fine kind excess⟩
  | stepsFit => exact ⟨_, .stepsFit⟩
  | row => exact ⟨_, .row⟩
  | edge =>
    simp only [Met, not_forall] at h
    obtain ⟨t, shown, target, given, -⟩ := h
    by_cases hc : t.status = .canceled
    · exact ⟨_, .canceled shown given hc⟩
    · by_cases ht : t.status = .timedOut
      · exact ⟨_, .timedOut shown given ht⟩
      · exact ⟨_, .notAllowed shown given ⟨hc, ht⟩⟩
  | reason =>
    simp only [Met, not_forall] at h
    obtain ⟨t, shown, target, given, -⟩ := h
    exact ⟨_, .reason shown given⟩
  | extract =>
    simp only [Met, not_forall] at h
    obtain ⟨t, shown, target, given, -⟩ := h
    exact ⟨_, .extract shown given⟩
  | noExtract =>
    simp only [Met, not_forall] at h
    obtain ⟨t, shown, target, given, -⟩ := h
    exact ⟨_, .noExtract shown given⟩
  | once =>
    simp only [Met, not_forall] at h
    obtain ⟨t, shown, -⟩ := h
    exact ⟨_, .once shown⟩

/-! ## Needs of a row -/

/-- What is needed of every row that is shown is needed of the one that is. -/
theorem forall_shown_iff {P : Task → Prop} {t : Task} (shown : s.Shows id scope t) :
    (∀ t, s.Shows id scope t → P t) ↔ P t := by
  constructor
  · intro h
    exact h t shown
  · intro h t' shown'
    obtain rfl := shown.unique shown'
    exact h

theorem forall_given_iff {P : Status → Prop} {target : Status} (given : c.status = some target) :
    (∀ target ∈ c.status, P target) ↔ P target := by
  rw [given]
  simp

variable {t : Task} {target : Status}

theorem not_met_edge_iff (shown : s.Shows id scope t) (given : c.status = some target) :
    ¬ Met s id scope c .edge ↔ ¬ t.status.canBecome target = true := by
  rw [Met, forall_shown_iff shown, forall_given_iff given, Status.canBecome_iff]

theorem not_met_reason_iff (shown : s.Shows id scope t) (given : c.status = some target) :
    ¬ Met s id scope c .reason ↔ target.needsReason = true ∧ c.failureReason.isNone = true := by
  rw [Met, forall_shown_iff shown, forall_given_iff given, Status.needsReason_iff, Option.isNone_iff_eq_none]
  tauto

theorem not_met_extract_iff (shown : s.Shows id scope t) (given : c.status = some target) :
    ¬ Met s id scope c .extract ↔
      target.needsExtract = true ∧ t.standing.hasGoal = true ∧ c.extract.isNone = true := by
  rw [Met, forall_shown_iff shown, forall_given_iff given, Status.needsExtract_iff, Standing.hasGoal_iff,
    Option.isNone_iff_eq_none]
  show _ ↔ _ ∧ (t.extractionGoal ≠ none ∧ t.extractionGoal ≠ some "") ∧ _
  tauto

theorem not_met_noExtract_iff (shown : s.Shows id scope t) (given : c.status = some target) :
    ¬ Met s id scope c .noExtract ↔ target.forbidsExtract = true ∧ c.extract.isSome = true := by
  rw [Met, forall_shown_iff shown, forall_given_iff given, ← Bool.not_eq_false, Status.forbidsExtract_eq_false_iff,
    Option.isSome_iff_ne_none]
  tauto

theorem not_met_once_iff (shown : s.Shows id scope t) :
    ¬ Met s id scope c .once ↔ t.failureReason.isSome = true ∧ c.failureReason.isSome = true := by
  rw [Met, forall_shown_iff shown, Option.isSome_iff_ne_none, Option.isSome_iff_ne_none, not_or]

end Need

/-- What a task asks of a prepared update, in terms of the update before. -/
theorem Task.check_given {t : Task} {c : Change} {target : Status} (given : c.status = some target) :
    t.check c.cleaned =
      if ¬ t.status.canBecome target then .error (.transition (.between t.status target))
      else if target.needsReason ∧ c.failureReason.isNone then .error (.missingReason target)
      else if target.needsExtract ∧ t.standing.hasGoal ∧ c.extract.isNone then .error (.missingExtract target)
      else if target.forbidsExtract ∧ c.extract.isSome then .error (.unexpectedExtract target)
      else if t.failureReason.isSome ∧ c.failureReason.isSome then .error .reasonAlreadySet
      else .ok () := by
  rw [check_of_some ((Change.cleaned_status c).trans given)]
  simp only [Change.cleaned_extract, Change.cleaned_failureReason, Option.isNone_map, Option.isSome_map]
  rfl

/-! ## What is needed before a row is looked for -/

theorem Input.payload?_eq_ok_iff {field : String} {v : Option Json} :
    payload? field v = .ok () ↔ ∀ w ∈ v, w.check = .ok () := by
  cases v with
  | none => simp [payload?]
  | some w => rw [payload?, payload_eq_ok_iff]; simp

/-- The first entry that is at fault decides for a list of errors. -/
theorem Input.entries_of_first {index : Nat} {before after : List Json} {v : Json} {fault : Input.Fault}
    (fine : ∀ w ∈ before, IsEntry w) (h : entries (index + before.length) (v :: after) = .error fault) :
    entries index (before ++ v :: after) = .error fault := by
  induction before generalizing index with
  | nil => exact h
  | cons w before ih =>
    obtain ⟨⟨hkind, hpayload⟩, hrest⟩ := List.forall_mem_cons.mp fine
    rw [List.length_cons, Nat.add_comm before.length, ← Nat.add_assoc] at h
    rw [List.cons_append, entries, if_neg (not_not_intro hkind), hpayload]
    exact ih hrest h

namespace Change

variable {c : Change} {fault : Input.Fault}

theorem isEmpty_iff : c.isEmpty = true ↔ c = .empty := by
  obtain ⟨status, extract, reason, webhook, errors, steps⟩ := c
  simp [isEmpty, empty, and_assoc]

theorem entries?_eq_ok_iff {errors : Option (List Json)} :
    entries? errors = .ok () ↔ ∀ vs ∈ errors, ∀ v ∈ vs, v.isObject = true ∧ v.check = .ok () := by
  cases errors with
  | none => simp [entries?]
  | some vs =>
    rw [entries?, Input.entries_eq_ok_iff]
    simp [Input.IsEntry, Input.payload_eq_ok_iff]

theorem prepare_of_extract (h : Input.payload? "extracted_information" c.extract = .error fault) :
    c.prepare = .error fault := by
  rw [prepare, h]
  rfl

theorem prepare_of_errors (hextract : Input.payload? "extracted_information" c.extract = .ok ())
    (h : entries? c.errors = .error fault) : c.prepare = .error fault := by
  rw [prepare, hextract, h]
  rfl

theorem prepare_of_steps (hextract : Input.payload? "extracted_information" c.extract = .ok ())
    (herrors : entries? c.errors = .ok ()) (h : Input.steps c.maxSteps = .error fault) : c.prepare = .error fault := by
  rw [prepare, hextract, herrors, h]
  rfl

end Change

namespace Store

variable {s : Store} {id : String} {scope : Option String} {now : Moment} {c : Change} {need : Need} {fault : Fault}

theorem prepare_of_fault {fault : Input.Fault} (hfield : c ≠ .empty) (h : c.prepare = .error fault) :
    prepare id c = .error (.input fault) := by
  rw [prepare, if_neg fun hempty => hfield (Change.isEmpty_iff.mp hempty), h]
  rfl

/-- An update is prepared where everything is met that is asked for before the row. -/
theorem prepare_of_met (h : ∀ n : Need, n.precedes .row → n.Met s id scope c) : prepare id c = .ok c.cleaned := by
  have hfield : c ≠ .empty := h .field (by decide)
  have hextract : Input.payload? "extracted_information" c.extract = .ok () :=
    Input.payload?_eq_ok_iff.mpr (h .extractFits (by decide))
  have herrors : Change.entries? c.errors = .ok () := Change.entries?_eq_ok_iff.mpr (h .errorsFit (by decide))
  have hsteps : Input.steps c.maxSteps = .ok () := Input.steps_eq_ok_iff.mpr (h .stepsFit (by decide))
  have hprepare : c.prepare = .ok c.cleaned := Change.prepare_eq_ok_iff.mpr ⟨⟨hextract, herrors, hsteps⟩, rfl⟩
  rw [prepare, if_neg fun hempty => hfield (Change.isEmpty_iff.mp hempty), hprepare]
  rfl

/-- What is asked for before the row, and is the first that is not met, decides how an update is prepared. -/
theorem prepare_of_unmet (hunmet : ¬ need.Met s id scope c) (hbefore : ∀ n : Need, n.precedes need → n.Met s id scope c)
    (hblames : Need.Blames s id scope c need fault) (hneed : need.precedes .row) : prepare id c = .error fault := by
  have hfield : Need.precedes .field need → c ≠ .empty := hbefore .field
  have hextract (h : Need.precedes .extractFits need) : Input.payload? "extracted_information" c.extract = .ok () :=
    Input.payload?_eq_ok_iff.mpr (hbefore .extractFits h)
  have herrors (h : Need.precedes .errorsFit need) : Change.entries? c.errors = .ok () :=
    Change.entries?_eq_ok_iff.mpr (hbefore .errorsFit h)
  cases hblames with
  | field => rw [prepare, if_pos (Change.isEmpty_iff.mpr (not_not.mp hunmet))]
  | extractFits given excess =>
    refine prepare_of_fault (hfield (by decide)) (Change.prepare_of_extract ?_)
    rw [given, Input.payload?, Input.payload, excess]
  | @notAnObject before after v given fine kind =>
    refine prepare_of_fault (hfield (by decide)) (Change.prepare_of_errors (hextract (by decide)) ?_)
    rw [given, Change.entries?]
    refine Input.entries_of_first (fun w hw => ⟨(fine w hw).1, Input.payload_eq_ok_iff.mpr (fine w hw).2⟩) ?_
    rw [Input.entries, if_pos (by simp [kind]), Nat.zero_add]
  | @errorsFit before after v x given fine kind excess =>
    refine prepare_of_fault (hfield (by decide)) (Change.prepare_of_errors (hextract (by decide)) ?_)
    rw [given, Change.entries?]
    refine Input.entries_of_first (fun w hw => ⟨(fine w hw).1, Input.payload_eq_ok_iff.mpr (fine w hw).2⟩) ?_
    rw [Input.entries, if_neg (not_not_intro kind), Input.payload, excess]
  | stepsFit =>
    refine prepare_of_fault (hfield (by decide))
      (Change.prepare_of_steps (hextract (by decide)) (herrors (by decide)) ?_)
    simp only [Need.Met, not_forall] at hunmet
    obtain ⟨n, hn, hneg⟩ := hunmet
    rw [hn, Input.steps, if_pos (Int.not_le.mp hneg)]
  | row | canceled | timedOut | notAllowed | reason | extract | noExtract | once => exact absurd hneed (by decide)

end Store

/-! ## What is needed of the row -/

theorem Barrier.between_of_ne {source : Status} (target : Status) (hcanceled : source ≠ .canceled)
    (htimedOut : source ≠ .timedOut) : between source target = .notAllowed source target := by
  cases source with
  | canceled => exact absurd rfl hcanceled
  | timedOut => exact absurd rfl htimedOut
  | created | queued | running | failed | terminated | completed => rfl

namespace Task

variable {s : Store} {id : String} {scope : Option String} {t : Task} {c : Change} {need : Need} {fault : Fault}

theorem check_given_none (given : c.status = none) :
    t.check c.cleaned =
      if t.failureReason.isSome ∧ c.failureReason.isSome then .error .reasonAlreadySet else .ok () := by
  rw [check_of_none ((Change.cleaned_status c).trans given)]
  rw [Change.cleaned_failureReason]

/-- What is needed of a row, and is the first that is not met, decides how the row takes an update. -/
theorem check_of_unmet (shown : s.Shows id scope t) (hunmet : ¬ need.Met s id scope c)
    (hbefore : ∀ n : Need, n.precedes need → n.Met s id scope c) (hblames : Need.Blames s id scope c need fault)
    (hneed : Need.precedes .row need) : ∃ refusal, fault = .refused t.id refusal ∧ t.check c.cleaned = .error refusal := by
  -- the guards that an update has passed when it comes to one after them
  have hedge {target : Status} (given : c.status = some target) (h : Need.precedes .edge need) :
      ¬ ¬ t.status.canBecome target = true :=
    fun hguard => (Need.not_met_edge_iff shown given).mpr hguard (hbefore .edge h)
  have hreason {target : Status} (given : c.status = some target) (h : Need.precedes .reason need) :
      ¬ (target.needsReason = true ∧ c.failureReason.isNone = true) :=
    fun hguard => (Need.not_met_reason_iff shown given).mpr hguard (hbefore .reason h)
  have hextract {target : Status} (given : c.status = some target) (h : Need.precedes .extract need) :
      ¬ (target.needsExtract = true ∧ t.standing.hasGoal = true ∧ c.extract.isNone = true) :=
    fun hguard => (Need.not_met_extract_iff shown given).mpr hguard (hbefore .extract h)
  have hnoExtract {target : Status} (given : c.status = some target) (h : Need.precedes .noExtract need) :
      ¬ (target.forbidsExtract = true ∧ c.extract.isSome = true) :=
    fun hguard => (Need.not_met_noExtract_iff shown given).mpr hguard (hbefore .noExtract h)
  cases hblames with
  | @canceled t' target shown' given hstatus =>
    obtain rfl := shown.unique shown'
    refine ⟨_, rfl, ?_⟩
    rw [check_given given, if_pos ((Need.not_met_edge_iff shown given).mp hunmet), hstatus]
    rfl
  | @timedOut t' target shown' given hstatus =>
    obtain rfl := shown.unique shown'
    refine ⟨_, rfl, ?_⟩
    rw [check_given given, if_pos ((Need.not_met_edge_iff shown given).mp hunmet), hstatus]
    rfl
  | @notAllowed t' target shown' given hstatus =>
    obtain rfl := shown.unique shown'
    refine ⟨_, rfl, ?_⟩
    rw [check_given given, if_pos ((Need.not_met_edge_iff shown given).mp hunmet),
      Barrier.between_of_ne target hstatus.1 hstatus.2]
  | @reason t' target shown' given =>
    obtain rfl := shown.unique shown'
    refine ⟨_, rfl, ?_⟩
    rw [check_given given, if_neg (hedge given (by decide)), if_pos ((Need.not_met_reason_iff shown given).mp hunmet)]
  | @extract t' target shown' given =>
    obtain rfl := shown.unique shown'
    refine ⟨_, rfl, ?_⟩
    rw [check_given given, if_neg (hedge given (by decide)), if_neg (hreason given (by decide)),
      if_pos ((Need.not_met_extract_iff shown given).mp hunmet)]
  | @noExtract t' target shown' given =>
    obtain rfl := shown.unique shown'
    refine ⟨_, rfl, ?_⟩
    rw [check_given given, if_neg (hedge given (by decide)), if_neg (hreason given (by decide)),
      if_neg (hextract given (by decide)), if_pos ((Need.not_met_noExtract_iff shown given).mp hunmet)]
  | @once t' shown' =>
    obtain rfl := shown.unique shown'
    refine ⟨_, rfl, ?_⟩
    have hguard := (Need.not_met_once_iff shown).mp hunmet
    cases given : c.status with
    | none => rw [check_given_none given, if_pos hguard]
    | some target =>
      rw [check_given given, if_neg (hedge given (by decide)), if_neg (hreason given (by decide)),
        if_neg (hextract given (by decide)), if_neg (hnoExtract given (by decide)), if_pos hguard]
  | field | extractFits | notAnObject | errorsFit | stepsFit | row => exact absurd hneed (by decide)

/-- A row takes an update that meets every need. -/
theorem check_of_met (shown : s.Shows id scope t) (h : ∀ n : Need, n.Met s id scope c) : t.check c.cleaned = .ok () := by
  have honce : ¬ (t.failureReason.isSome = true ∧ c.failureReason.isSome = true) :=
    fun hguard => (Need.not_met_once_iff shown).mpr hguard (h .once)
  cases given : c.status with
  | none => rw [check_given_none given, if_neg honce]
  | some target =>
    rw [check_given given, if_neg fun hguard => (Need.not_met_edge_iff shown given).mpr hguard (h .edge),
      if_neg fun hguard => (Need.not_met_reason_iff shown given).mpr hguard (h .reason),
      if_neg fun hguard => (Need.not_met_extract_iff shown given).mpr hguard (h .extract),
      if_neg fun hguard => (Need.not_met_noExtract_iff shown given).mpr hguard (h .noExtract), if_neg honce]

end Task

/-! ## Updates -/

namespace Store

variable {s : Store} {id : String} {scope : Option String} {c : Change} {need : Need} {fault : Fault}

/-- An update that meets every need succeeds. -/
theorem update_of_met (h : ∀ n : Need, n.Met s id scope c) (now : Moment) :
    ∃ t, s.Shows id scope t ∧
      s.update id scope now c = .ok (t.apply c.cleaned now, s.insert id (t.apply c.cleaned now)) := by
  obtain ⟨t, shown⟩ : ∃ t, s.Shows id scope t := h .row
  exact ⟨t, shown, update_eq_ok (prepare_of_met fun n _ => h n) (find_eq_some_iff.mpr shown) (Task.check_of_met shown h)⟩

/-- An update is refused with the fault of the first need that is not met. -/
theorem update_of_unmet (hunmet : ¬ need.Met s id scope c) (hbefore : ∀ n : Need, n.precedes need → n.Met s id scope c)
    (hblames : Need.Blames s id scope c need fault) (now : Moment) : s.update id scope now c = .error fault := by
  rcases Nat.lt_trichotomy need.ctorIdx Need.row.ctorIdx with hneed | hneed | hneed
  · have hprepare := prepare_of_unmet hunmet hbefore hblames hneed
    simp only [update, hprepare]
  · obtain rfl : need = .row := by cases need <;> first | rfl | cases hneed
    have hnone : s.find id scope = none :=
      Option.eq_none_iff_forall_ne_some.mpr fun t ht => hunmet ⟨t, find_eq_some_iff.mp ht⟩
    cases hblames
    simp only [update, prepare_of_met hbefore, hnone]
  · obtain ⟨t, shown⟩ : ∃ t, s.Shows id scope t := hbefore .row hneed
    obtain ⟨refusal, rfl, hcheck⟩ := Task.check_of_unmet shown hunmet hbefore hblames hneed
    refine update_eq_error (prepare_of_met fun n hn => hbefore n (Nat.lt_trans hn hneed)) (find_eq_some_iff.mpr shown) hcheck

end Store

/-- An update of a task succeeds exactly if all its needs are met.  Otherwise it is refused with the fault of the first of
them, in the order in which they are asked for, that is not met.  An update that succeeds is answered with the row that was
shown, to which the prepared update has been applied; that row is stored, and no other row changes. -/
theorem acceptance_of_needs (s : Store) (id : String) (scope : Option String) (now : Moment) (c : Change) :
    ((∃ t s', s.update id scope now c = .ok (t, s')) ↔ ∀ need : Need, need.Met s id scope c) ∧
    (∀ fault, s.update id scope now c = .error fault ↔
      ∃ need : Need, ¬ need.Met s id scope c ∧ (∀ n : Need, n.precedes need → n.Met s id scope c) ∧
        Need.Blames s id scope c need fault) ∧
    ∀ t' s', s.update id scope now c = .ok (t', s') →
      ∃ t, s.Shows id scope t ∧ c.prepare = .ok c.cleaned ∧ t' = t.apply c.cleaned now ∧ s'[id]? = some t' ∧
        ∀ key, key ≠ id → s'[key]? = s[key]? := by
  -- an update that does not meet every need is refused
  have hfirst (h : ¬ ∀ need : Need, need.Met s id scope c) : ∃ need : Need, ¬ need.Met s id scope c ∧
      (∀ n : Need, n.precedes need → n.Met s id scope c) ∧ ∃ fault, Need.Blames s id scope c need fault := by
    obtain ⟨need, hunmet, hbefore⟩ := Need.exists_first (not_forall.mp h)
    exact ⟨need, hunmet, hbefore, Need.exists_blamed hunmet⟩
  refine ⟨⟨?_, ?_⟩, ?_, ?_⟩
  · rintro ⟨t, s', hok⟩
    by_contra h
    obtain ⟨need, hunmet, hbefore, fault, hblames⟩ := hfirst h
    rw [Store.update_of_unmet hunmet hbefore hblames now] at hok
    cases hok
  · intro h
    obtain ⟨t, -, hok⟩ := Store.update_of_met h now
    exact ⟨_, _, hok⟩
  · intro fault
    constructor
    · intro herror
      have hsome : ¬ ∀ need : Need, need.Met s id scope c := by
        intro h
        obtain ⟨t, -, hok⟩ := Store.update_of_met h now
        rw [hok] at herror
        cases herror
      obtain ⟨need, hunmet, hbefore, fault', hblames⟩ := hfirst hsome
      rw [Store.update_of_unmet hunmet hbefore hblames now] at herror
      cases herror
      exact ⟨need, hunmet, hbefore, hblames⟩
    · rintro ⟨need, hunmet, hbefore, hblames⟩
      exact Store.update_of_unmet hunmet hbefore hblames now
  · intro t' s' hok
    obtain ⟨ready, t, found, -, rfl, rfl⟩ := Store.update_eq_ok_iff.mp hok
    obtain ⟨-, hprepare, -⟩ := Store.prepare_eq_ok ready
    refine ⟨t, Store.find_eq_some_iff.mp found, hprepare, rfl, ?_, ?_⟩
    · rw [Store.getElem?_insert, if_pos rfl]
    · intro key hkey
      rw [Store.getElem?_insert, if_neg (Ne.symm hkey)]

/-- A task that has been queued. -/
def queuedStore : Store :=
  Store.after Paging.default [
    ⟨.create { Draft.ofUrl "http://[::1]" with extractionGoal := some "price" }, Moment.inMinute 0, "tsk_1"⟩,
    ⟨.update "tsk_1" none (Change.toStatus .queued none none), Moment.inMinute 1, ""⟩]

/-- An update with two faults in its errors and a negative number of steps. -/
def faultyChange : Change :=
  { Change.toStatus .completed none none with
    errors := some [.object [], .array [], .null]
    maxSteps := some (-1) }

/-- The update is refused for the first of its faults, before the table refuses it.  An update that the task takes is
answered with the stored row. -/
theorem acceptance_of_queuedStore :
    (∃ need : Need, ¬ need.Met queuedStore "tsk_1" none faultyChange ∧
      (∀ n : Need, n.precedes need → n.Met queuedStore "tsk_1" none faultyChange) ∧
      Need.Blames queuedStore "tsk_1" none faultyChange need (.input (.notAnObject 1))) ∧
    (∀ need : Need, need.Met queuedStore "tsk_1" none (Change.toStatus .running none none)) ∧
    ∃ t' s', queuedStore.update "tsk_1" none (Moment.inMinute 2) (Change.toStatus .running none none) = .ok (t', s') ∧
      s'["tsk_1"]? = some t' ∧ ∃ t, queuedStore.Shows "tsk_1" none t ∧
        t' = t.apply (Change.toStatus .running none none).cleaned (Moment.inMinute 2) := by
  obtain ⟨-, hrefused, -⟩ := acceptance_of_needs queuedStore "tsk_1" none (Moment.inMinute 2) faultyChange
  obtain ⟨hmet, -, hstored⟩ :=
    acceptance_of_needs queuedStore "tsk_1" none (Moment.inMinute 2) (Change.toStatus .running none none)
  have hok : ∃ t' s', queuedStore.update "tsk_1" none (Moment.inMinute 2) (Change.toStatus .running none none) =
      .ok (t', s') := ⟨_, _, rfl⟩
  obtain ⟨t', s', hupdate⟩ := hok
  obtain ⟨t, shown, -, ht', hrow, -⟩ := hstored t' s' hupdate
  exact ⟨(hrefused _).mp rfl, hmet.mp ⟨t', s', hupdate⟩, t', s', hupdate, hrow, t, shown, ht'⟩

end TaskLifecycle
