import Mathlib.Data.List.Infix
import Mathlib.Data.List.Sort
import TaskLifecycle.Proofs.Pages

/-!
# TaskLifecycle.Proofs.Browsing — pages read one after another while tasks are written

A client reads page after page in the order in which tasks were created; between two pages others create, update and
clear tasks.  Each page is cut from the tasks of its own time.

* `slice`: a slice of a list that grows at its end from slice to slice; `slices_sublist`, `take_subset_slices`: nothing
  comes twice, and nothing is lost that was there from the start.
* `Task.origin`: what a task has from its creation and keeps; `Store.Effect.exists_same_origin`.
* `Store.places`: the places, in ascending order, of the tasks that meet a filter; `Store.Grows`: new tasks are new and
  created after all others; `Store.places_prefix_run`: then places are only added at the end.
* `browsed_of_run`: every task that was there at the first page is read exactly once, and none twice.
-/

namespace TaskLifecycle

/-! ## Slices of a growing list -/

section Slices

variable {α : Type} {l : Nat → List α}

/-- The slice number `n` of a list of which `l n` is the state at that slice. -/
def slice (l : Nat → List α) (size n : Nat) : List α :=
  ((l n).drop (n * size)).take size

theorem prefix_of_le (h : ∀ n, l n <+: l (n + 1)) {m n : Nat} (hmn : m ≤ n) : l m <+: l n := by
  induction hmn with
  | refl => exact List.prefix_rfl
  | step _ ih => exact ih.trans (h _)

/-- What is taken from a growing list slice by slice stands in it once it is grown. -/
theorem slices_sublist (h : ∀ n, l n <+: l (n + 1)) (size n : Nat) :
    ((List.range n).flatMap (slice l size)).Sublist ((l n).take (n * size)) := by
  induction n with
  | zero => simp
  | succ n ih =>
    rw [List.range_succ, List.flatMap_append, List.flatMap_singleton, Nat.succ_mul, List.take_add]
    have hbefore : (l n).take (n * size) <+: (l (n + 1)).take (n * size) := (h n).take _
    have hslice : slice l size n <+: ((l (n + 1)).drop (n * size)).take size := ((h n).drop _).take _
    exact (ih.trans hbefore.sublist).append hslice.sublist

/-- What stands in the list from the start is in the slices. -/
theorem take_subset_slices (h : ∀ n, l n <+: l (n + 1)) (size n : Nat) :
    (l 0).take (n * size) ⊆ (List.range n).flatMap (slice l size) := by
  induction n with
  | zero => simp
  | succ n ih =>
    rw [List.range_succ, List.flatMap_append, List.flatMap_singleton, Nat.succ_mul, List.take_add]
    have hslice : ((l 0).drop (n * size)).take size <+: slice l size n :=
      ((prefix_of_le h (Nat.zero_le n)).drop _).take _
    exact List.append_subset.mpr
      ⟨List.subset_append_of_subset_left _ ih, List.subset_append_of_subset_right _ hslice.subset⟩

/-- Once a slice is not full, all that stands in the list from the start is in the slices so far. -/
theorem subset_slices_of_short (h : ∀ n, l n <+: l (n + 1)) {size n : Nat} (hshort : (slice l size n).length < size) :
    l 0 ⊆ (List.range (n + 1)).flatMap (slice l size) := by
  have hle : (l 0).length ≤ (l n).length := (prefix_of_le h (Nat.zero_le n)).length_le
  have hlength : (l 0).length ≤ (n + 1) * size := by
    rw [slice, List.length_take, List.length_drop] at hshort
    rw [Nat.succ_mul]
    omega
  rw [← List.take_of_length_le hlength]
  exact take_subset_slices h size (n + 1)

/-- Of two ascending lists the first begins the second if its elements are in it and all others come after them. -/
theorem prefix_of_ascending {β : Type} [LinearOrder β] {l l' : List β} (hl : l.Pairwise (· < ·))
    (hl' : l'.Pairwise (· < ·)) (hsub : ∀ a ∈ l, a ∈ l') (hnew : ∀ a ∈ l', a ∈ l ∨ ∀ b ∈ l, b < a) : l <+: l' := by
  refine ⟨l'.filter (· ∉ l), List.Pairwise.eq_of_mem_iff (List.pairwise_append.mpr ⟨hl, hl'.filter _, ?_⟩) hl' ?_⟩
  · intro b hb a ha
    obtain ⟨ha', hna⟩ := List.mem_filter.mp ha
    exact (hnew a ha').resolve_left (by simpa using hna) b hb
  · intro a
    rw [List.mem_append, List.mem_filter]
    constructor
    · rintro (ha | ha)
      · exact hsub a ha
      · exact ha.1
    · intro ha
      by_cases hal : a ∈ l
      · exact .inl hal
      · exact .inr ⟨ha, by simpa using hal⟩

end Slices

/-! ## What a task has from its creation -/

/-- The task without all that updates and clears may write. -/
def Task.origin (t : Task) : Task :=
  { t with
    status := .created
    extract := none
    failureReason := none
    webhookFailure := none
    maxSteps := none
    errors := []
    modified := t.created
    queued := none
    started := none
    finished := none }

/-- A filter without statuses looks only at what a task has from its creation. -/
theorem Filter.keeps_origin {f : Filter} (hf : f.statuses = []) (t : Task) : f.keeps t.origin = f.keeps t := by
  unfold keeps
  rw [hf]
  rfl

theorem OrderKey.place_origin (t : Task) : created.place t.origin = created.place t := rfl

namespace Store

variable {s s' : Store} {step : Step} {f : Filter} {paging : Paging}

/-- A step that does not draw the identifier of a task leaves what the task has from its creation. -/
theorem Effect.exists_same_origin {answer : Except Fault Answer} (he : s.Effect step answer s') {id : String} {t : Task}
    (ht : s[id]? = some t) (hnew : step.operation.draws = true → step.fresh ≠ id) :
    ∃ t', s'[id]? = some t' ∧ t'.origin = t.origin := by
  rcases he.row ht hnew with hr | ⟨c, -, hr⟩ | hr
  · exact ⟨t, hr, rfl⟩
  · exact ⟨_, hr, rfl⟩
  · exact ⟨_, hr, rfl⟩

/-! ## Places -/

/-- The places of the tasks that meet a filter, in the order of their creation. -/
def places (s : Store) (f : Filter) : List (Int ×ₗ String) :=
  (Listing.arranged ⟨f, 1, 1, .created, .ascending⟩ s.rows).map OrderKey.created.place

theorem mem_places_iff (hs : s.Keyed) {p : Int ×ₗ String} : p ∈ s.places f ↔
    ∃ (id : String) (t : Task), s[id]? = some t ∧ f.keeps t = true ∧ OrderKey.created.place t = p := by
  simp only [places, List.mem_map, (lists_arranged hs f .created).mem_iff]
  constructor
  · rintro ⟨t, ⟨⟨id, ht⟩, hk⟩, hp⟩
    exact ⟨id, t, ht, hk, hp⟩
  · rintro ⟨id, t, ht, hk, hp⟩
    exact ⟨t, ⟨⟨id, ht⟩, hk⟩, hp⟩

theorem pairwise_places (hs : s.Keyed) (f : Filter) : (s.places f).Pairwise (· < ·) :=
  List.pairwise_map.mpr ((lists_arranged hs f .created).sorted.imp OrderKey.before_iff.mp)

/-- A step creates a task only under an identifier that is new, and after all other tasks. -/
def Extends (s : Store) (step : Step) : Prop :=
  step.operation.draws = true → step.fresh ∉ s ∧ ∀ t ∈ s.rows, t.created < step.now

instance (s : Store) (step : Step) : Decidable (s.Extends step) := by
  unfold Extends; infer_instance

/-- Such a step adds at most one place, at the end. -/
theorem places_prefix_perform (hs : s.Keyed) (hf : f.statuses = []) (h : s.Extends step) :
    s.places f <+: (s.perform paging step).2.places f := by
  have he := effect paging s step
  have hs' := he.keyed hs
  have hnew : ∀ {id : String} {t : Task}, s[id]? = some t → step.operation.draws = true → step.fresh ≠ id := by
    rintro id t ht hd rfl
    exact (h hd).1 (mem_iff_getElem?.mpr ⟨t, ht⟩)
  refine prefix_of_ascending (pairwise_places hs f) (pairwise_places hs' f) ?_ ?_
  · intro p hp
    obtain ⟨id, t, ht, hk, rfl⟩ := (mem_places_iff hs).mp hp
    obtain ⟨t', ht', ho⟩ := he.exists_same_origin ht (hnew ht)
    refine (mem_places_iff hs').mpr ⟨id, t', ht', ?_, ?_⟩
    · rw [← Filter.keeps_origin hf, ho, Filter.keeps_origin hf, hk]
    · rw [← OrderKey.place_origin, ho, OrderKey.place_origin]
  · intro p hp
    obtain ⟨id, t', ht', hk, rfl⟩ := (mem_places_iff hs').mp hp
    rcases (mem_perform_iff paging s step id).mp (mem_iff_getElem?.mpr ⟨t', ht'⟩) with hid | ⟨hd, rfl⟩
    · left
      obtain ⟨t, ht⟩ := mem_iff_getElem?.mp hid
      obtain ⟨t'', ht'', ho⟩ := he.exists_same_origin ht (hnew ht)
      obtain rfl : t'' = t' := Option.some.inj (ht''.symm.trans ht')
      refine (mem_places_iff hs).mpr ⟨id, t, ht, ?_, ?_⟩
      · rw [← Filter.keeps_origin hf, ← ho, Filter.keeps_origin hf, hk]
      · rw [← OrderKey.place_origin, ← ho, OrderKey.place_origin]
    · right
      -- the new task, created after all that were there
      obtain ⟨d, d', op, ready⟩ := Operation.exists_of_draws hd
      rw [perform_create paging s op ready, getElem?_insert, if_pos rfl] at ht'
      obtain rfl := Option.some.inj ht'
      intro q hq
      obtain ⟨id, t, ht, -, rfl⟩ := (mem_places_iff hs).mp hq
      exact OrderKey.before_iff.mp (.inl ((h hd).2 t (mem_rows_iff.mpr ⟨id, ht⟩)))

/-- Every step of a run creates a task only under an identifier that is new, and after all other tasks. -/
def Grows (paging : Paging) (s : Store) : List Step → Prop
  | [] => True
  | step :: rest => s.Extends step ∧ Grows paging (s.perform paging step).2 rest

instance decidableGrows (paging : Paging) : ∀ (s : Store) (steps : List Step), Decidable (s.Grows paging steps)
  | _, [] => .isTrue trivial
  | s, step :: rest =>
    have := decidableGrows paging (s.perform paging step).2 rest
    inferInstanceAs (Decidable (s.Extends step ∧ Grows paging (s.perform paging step).2 rest))

theorem keyed_run (paging : Paging) (hs : s.Keyed) (steps : List Step) : (s.run paging steps).2.Keyed := by
  induction steps generalizing s with
  | nil => exact hs
  | cons step rest ih => exact ih ((effect paging s step).keyed hs)

/-- In such a run places are only added at the end. -/
theorem places_prefix_run (hs : s.Keyed) (hf : f.statuses = []) {steps : List Step} (h : s.Grows paging steps) :
    s.places f <+: (s.run paging steps).2.places f := by
  induction steps generalizing s with
  | nil => exact List.prefix_rfl
  | cons step rest ih =>
    exact (places_prefix_perform hs hf h.1).trans (ih ((effect paging s step).keyed hs) h.2)

/-! ## Pages -/

/-- The store when page `n + 1` is read, where the steps `gap n` come between this page and the next. -/
def atPage (paging : Paging) (s : Store) (gap : Nat → List Step) : Nat → Store
  | 0 => s
  | n + 1 => ((atPage paging s gap n).run paging (gap n)).2

theorem keyed_atPage (paging : Paging) (hs : s.Keyed) (gap : Nat → List Step) (n : Nat) :
    (s.atPage paging gap n).Keyed := by
  induction n with
  | zero => exact hs
  | succ n ih => exact keyed_run paging ih (gap n)

/-- The identifiers of the tasks that meet a filter, in the order of their creation. -/
def ids (s : Store) (f : Filter) : List String :=
  (s.places f).map fun p => (ofLex p).2

theorem ids_eq (s : Store) (f : Filter) (page size : UInt32) :
    s.ids f = (Listing.arranged ⟨f, page, size, .created, .ascending⟩ s.rows).map Task.id := by
  rw [ids, places, List.map_map]
  rfl

/-- A page holds the tasks of a slice of the identifiers. -/
theorem ids_answer (s : Store) (f : Filter) (size : UInt32) {n : Nat} (hn : n + 1 < 2 ^ 32) :
    (Listing.answer ⟨f, UInt32.ofNat (n + 1), size, .created, .ascending⟩ s.rows).map Task.id =
      ((s.ids f).drop (n * size.toNat)).take size.toNat := by
  have hpage : (UInt32.ofNat (n + 1)).toNat - 1 = n := by
    rw [UInt32.toNat_ofNat', Nat.mod_eq_of_lt hn]
    rfl
  rw [Listing.answer, List.map_take, List.map_drop, ← ids_eq, Listing.offset, hpage]

end Store

/-- In every run, for every filter without statuses: a client reads page after page in the order in which tasks were
created, and other steps come between the pages, of which those that create a task do so under a new identifier and at a
later moment than all other tasks were created.  Then no page is refused, no task is read twice, and up to a page that
is not full every task that met the filter at the first page is read exactly once. -/
theorem browsed_of_run (paging : Paging) (steps : List Step) {f : Filter} (hf : f.statuses = []) {size : UInt32}
    (hsize : 1 ≤ size) (hmax : size ≤ paging.maxSize) {gap : Nat → List Step}
    (hgap : ∀ n, ((Store.after paging steps).atPage paging gap n).Grows paging (gap n)) :
    ∃ pages : Nat → List Task, ∀ n, n + 1 < 2 ^ 32 →
      ((Store.after paging steps).atPage paging gap n).list paging.maxSize
          ⟨f, UInt32.ofNat (n + 1), size, .created, .ascending⟩ = .ok (pages n) ∧
        (((List.range (n + 1)).flatMap pages).map Task.id).Nodup ∧
        ((pages n).length < size.toNat →
          ∀ (id : String) (t : Task), (Store.after paging steps)[id]? = some t → f.keeps t = true →
            (((List.range (n + 1)).flatMap pages).map Task.id).count id = 1) := by
  set store : Nat → Store := (Store.after paging steps).atPage paging gap
  have hkeyed : ∀ n, (store n).Keyed := Store.keyed_atPage paging (Store.keyed_after paging steps) gap
  have hgrow : ∀ n, (store n).ids f <+: (store (n + 1)).ids f := fun n =>
    (Store.places_prefix_run (hkeyed n) hf (hgap n)).map _
  set pages : Nat → List Task := fun n =>
    Listing.answer ⟨f, UInt32.ofNat (n + 1), size, .created, .ascending⟩ (store n).rows
  refine ⟨pages, fun n hn => ?_⟩
  have hids : ∀ m ≤ n, (pages m).map Task.id = slice (fun n => (store n).ids f) size.toNat m := fun m hm =>
    Store.ids_answer (store m) f size (by omega)
  have hall : ((List.range (n + 1)).flatMap pages).map Task.id =
      (List.range (n + 1)).flatMap (slice (fun n => (store n).ids f) size.toNat) := by
    rw [List.map_flatMap]
    exact List.flatMap_congr fun m hm => hids m (Nat.lt_succ_iff.mp (List.mem_range.mp hm))
  have honce : (((List.range (n + 1)).flatMap pages).map Task.id).Nodup := by
    have hnodup : ((store (n + 1)).ids f).Nodup := by
      rw [Store.ids_eq _ f 1 1]
      exact Listing.nodup_ids_arranged _ (hkeyed (n + 1)).nodup_ids
    rw [hall]
    exact (hnodup.sublist (List.take_sublist _ _)).sublist (slices_sublist hgrow size.toNat (n + 1))
  refine ⟨?_, honce, ?_⟩
  · have hpage : 1 ≤ UInt32.ofNat (n + 1) := by
      rw [UInt32.le_iff_toNat_le, UInt32.toNat_ofNat', Nat.mod_eq_of_lt hn]
      exact Nat.succ_le_succ (Nat.zero_le n)
    rw [Store.list, Listing.check_eq_ok_iff.mpr ⟨hpage, hsize, hmax⟩]
  · intro hshort id t ht hk
    have hmem : id ∈ (store 0).ids f := by
      obtain rfl := hkeyed 0 id t ht
      exact List.mem_map.mpr ⟨_, (Store.mem_places_iff (hkeyed 0)).mpr ⟨t.id, t, ht, hk, rfl⟩, rfl⟩
    rw [← List.length_map Task.id, hids n (Nat.le_refl n)] at hshort
    refine List.count_eq_one_of_mem honce ?_
    rw [hall]
    exact subset_slices_of_short hgrow hshort hmem

/-- Between the first page and the second a task that has been read is updated and cleared, and a new one is created. -/
def gapOfTiedRun : Nat → List Step
  | 0 => [
    ⟨.update "tsk_3" none (Change.toStatus .failed (some "no route") none), Moment.inMinute 2, ""⟩,
    ⟨.clearReason "tsk_3" none, Moment.inMinute 3, ""⟩,
    ⟨.create (Draft.ofUrl "http://[::1]"), Moment.inMinute 4, "tsk_0"⟩]
  | _ + 1 => []

/-- The three tasks that were there at the first page are on the first three pages of two, each once. -/
theorem browsed_of_tiedRun :
    (∀ n, ((Store.after Paging.default tiedRun).atPage Paging.default gapOfTiedRun n).Grows Paging.default
        (gapOfTiedRun n)) ∧
      ∃ pages : Nat → List Task, (pages 2).length < 2 ∧
        ∀ id ∈ ["tsk_1", "tsk_2", "tsk_3"], (((List.range 3).flatMap pages).map Task.id).count id = 1 := by
  have hgap : ∀ n, ((Store.after Paging.default tiedRun).atPage Paging.default gapOfTiedRun n).Grows Paging.default
      (gapOfTiedRun n) := by
    intro n
    cases n with
    | zero => decide
    | succ n => trivial
  have hsize : (1 : UInt32) ≤ 2 := by decide
  have hmax : 2 ≤ Paging.default.maxSize := by decide
  obtain ⟨pages, hpages⟩ := browsed_of_run Paging.default tiedRun (f := Filter.default) rfl hsize hmax hgap
  obtain ⟨hlist, -, honce⟩ := hpages 2 (by decide)
  have hshort : (pages 2).length < 2 := by
    rw [← Except.ok.inj hlist, Listing.length_answer]
    decide
  refine ⟨hgap, pages, hshort, ?_⟩
  intro id hid
  have hrow : ∃ t, (Store.after Paging.default tiedRun)[id]? = some t ∧ Filter.default.keeps t = true := by
    simp only [List.mem_cons, List.not_mem_nil, or_false] at hid
    rcases hid with rfl | rfl | rfl <;> exact ⟨_, rfl, rfl⟩
  obtain ⟨t, ht, hk⟩ := hrow
  exact honce hshort id t ht hk

end TaskLifecycle
