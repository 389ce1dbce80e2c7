import Mathlib.Data.List.Nodup
import Mathlib.Data.List.Perm.Basic
import Mathlib.Data.Prod.Lex
import Mathlib.Data.String.Basic
import TaskLifecycle.Proofs.Bytes
import TaskLifecycle.Proofs.Naming

/-!
# TaskLifecycle.Proofs.Pages — pages are slices of one list

Pages are cut from tasks that come in no fixed order.

* `OrderKey.Before`: the order of tasks, by a moment and then by the bytes of the identifier; `OrderKey.place`: a
  linear order that both it and the sorting of a listing go by.
* `Listing.arranged_congr`: the arranged tasks depend on which tasks there are, not on how they are enumerated.
* `Store.Lists`: the list of the tasks of a store that meet a filter; `Store.Lists.unique`: there is one at most;
  `Store.lists_arranged`: sorting makes it.
* `pages_of_run`: every page is a slice of it, and together they are all of it.
-/

namespace TaskLifecycle

/-! ## Orders -/

namespace OrderKey

variable {key : OrderKey} {a b : Task}

/-- A task comes before another: its moment is earlier, or the same and the bytes of its identifier come first. -/
def Before (key : OrderKey) (a b : Task) : Prop :=
  key.moment a < key.moment b ∨ key.moment a = key.moment b ∧ Text.bytes a.id < Text.bytes b.id

/-- The place of a task in ascending order. -/
def place (key : OrderKey) (t : Task) : Int ×ₗ String :=
  toLex ((key.moment t).rank, t.id)

theorem precedes_iff : key.precedes a b = true ↔ key.place a ≤ key.place b := by
  simp only [precedes, Bool.or_eq_true, Bool.and_eq_true, decide_eq_true_eq, place, Prod.Lex.le_iff]
  rfl

theorem before_iff : key.Before a b ↔ key.place a < key.place b := by
  have hrank : (key.moment a).rank = (key.moment b).rank ↔ key.moment a = key.moment b :=
    ⟨Moment.rank_injective, congrArg _⟩
  simp only [Before, Text.bytes_lt_iff, ← hrank, place, Prod.Lex.lt_iff]
  rfl

theorem id_eq_of_place (h : key.place a = key.place b) : a.id = b.id :=
  congrArg (fun p => (ofLex p).2) h

end OrderKey

namespace Direction

variable {key : OrderKey}

theorem comes_iff (direction : Direction) (a b : Task) : direction.comes key a b = true ↔
    match direction with
    | .ascending => key.place a ≤ key.place b
    | .descending => key.place b ≤ key.place a := by
  cases direction <;> exact OrderKey.precedes_iff

theorem comes_total (direction : Direction) (a b : Task) :
    (direction.comes key a b || direction.comes key b a) = true := by
  rw [Bool.or_eq_true, comes_iff, comes_iff]
  cases direction <;> exact le_total _ _

theorem comes_trans (direction : Direction) (a b c : Task) (hab : direction.comes key a b = true)
    (hbc : direction.comes key b c = true) : direction.comes key a c = true := by
  rw [comes_iff] at *
  cases direction with
  | ascending => exact le_trans hab hbc
  | descending => exact le_trans hbc hab

theorem id_eq_of_comes (direction : Direction) {a b : Task} (hab : direction.comes key a b = true)
    (hba : direction.comes key b a = true) : a.id = b.id := by
  rw [comes_iff] at *
  cases direction with
  | ascending => exact OrderKey.id_eq_of_place (le_antisymm hab hba)
  | descending => exact OrderKey.id_eq_of_place (le_antisymm hba hab)

/-- A list in ascending order, turned round for the descending one. -/
def turned (direction : Direction) (ts : List Task) : List Task :=
  match direction with
  | .ascending => ts
  | .descending => ts.reverse

theorem turned_perm (direction : Direction) (ts : List Task) : (direction.turned ts).Perm ts := by
  cases direction with
  | ascending => exact .refl ts
  | descending => exact ts.reverse_perm

theorem pairwise_turned (direction : Direction) {ts : List Task} (h : ts.Pairwise key.Before) :
    (direction.turned ts).Pairwise fun a b => direction.comes key a b = true := by
  cases direction with
  | ascending => exact h.imp fun hab => (comes_iff .ascending _ _).mpr (OrderKey.before_iff.mp hab).le
  | descending =>
    exact List.pairwise_reverse.mpr (h.imp fun hab => (comes_iff .descending _ _).mpr (OrderKey.before_iff.mp hab).le)

end Direction

/-! ## Arranged tasks -/

namespace Listing

variable {l : Listing} {rows rows' : List Task}

theorem arranged_perm (l : Listing) (rows : List Task) : (l.arranged rows).Perm (rows.filter l.filter.keeps) :=
  List.mergeSort_perm _ _

theorem pairwise_arranged (l : Listing) (rows : List Task) :
    (l.arranged rows).Pairwise fun a b => l.direction.comes l.key a b = true :=
  List.pairwise_mergeSort l.direction.comes_trans l.direction.comes_total _

theorem nodup_ids_arranged (l : Listing) (hids : (rows.map Task.id).Nodup) : ((l.arranged rows).map Task.id).Nodup :=
  ((l.arranged_perm rows).map _).nodup_iff.mpr (hids.sublist (List.filter_sublist.map _))

/-- Of tasks with identifiers of their own, the arranged ones are the only list in the order of the listing. -/
theorem eq_arranged {ts : List Task} (hids : (rows.map Task.id).Nodup) (hperm : ts.Perm (rows.filter l.filter.keeps))
    (hts : ts.Pairwise fun a b => l.direction.comes l.key a b = true) : ts = l.arranged rows := by
  refine List.Perm.eq_of_pairwise (fun a b ha hb hab hba => ?_) hts (pairwise_arranged l rows)
    (hperm.trans (arranged_perm l rows).symm)
  -- Two tasks of one place have one identifier, so they are one task.
  have ha' : a ∈ rows := List.mem_of_mem_filter (hperm.mem_iff.mp ha)
  have hb' : b ∈ rows := List.mem_of_mem_filter ((arranged_perm l rows).mem_iff.mp hb)
  exact List.inj_on_of_nodup_map hids ha' hb' (l.direction.id_eq_of_comes hab hba)

/-- The arranged tasks depend on which tasks there are, not on how they are enumerated. -/
theorem arranged_congr (hids : (rows'.map Task.id).Nodup)
    (hperm : (rows.filter l.filter.keeps).Perm (rows'.filter l.filter.keeps)) : l.arranged rows = l.arranged rows' :=
  eq_arranged hids ((arranged_perm l rows).trans hperm) (pairwise_arranged l rows)

/-- A page holds what is left of the tasks after the pages before it, up to its size. -/
theorem length_answer (l : Listing) (rows : List Task) :
    (l.answer rows).length = min l.size.toNat (rows.countP l.filter.keeps - l.offset) := by
  rw [answer, List.length_take, List.length_drop, (arranged_perm l rows).length_eq, List.countP_eq_length_filter]

theorem check_eq_ok_iff {maxSize : UInt32} :
    l.check maxSize = .ok () ↔ 1 ≤ l.page ∧ 1 ≤ l.size ∧ l.size ≤ maxSize := by
  unfold check
  by_cases hpage : l.page < 1
  · rw [if_pos hpage]
    simp [UInt32.not_le.mpr hpage]
  · rw [if_neg hpage]
    by_cases hsize : l.size < 1 ∨ maxSize < l.size
    · rw [if_pos hsize]
      rcases hsize with h | h
      · simp [UInt32.not_le.mpr h]
      · simp [UInt32.not_le.mpr h]
    · rw [if_neg hsize]
      rw [not_or, UInt32.not_lt, UInt32.not_lt] at hsize
      simp [UInt32.not_lt.mp hpage, hsize]

end Listing

/-! ## Rows -/

namespace Store

variable {s : Store} {f : Filter} {key : OrderKey} {ts ts' rows : List Task} {t : Task}

theorem mem_rows_iff : t ∈ s.rows ↔ ∃ id : String, s[id]? = some t := by
  simp only [rows, List.mem_map, Prod.exists, Std.ExtTreeMap.mem_toList_iff_getElem?_eq_some, exists_eq_right]

/-- Tasks that stand under their own identifiers have different ones. -/
theorem Keyed.nodup_ids (h : s.Keyed) : (s.rows.map Task.id).Nodup := by
  have hkeys : (s.toList.map Prod.fst).Nodup := by
    rw [List.Nodup, List.pairwise_map]
    exact Std.ExtTreeMap.distinct_keys_toList.imp fun hne heq => hne (by rw [heq]; exact Std.ReflCmp.compare_self)
  have heq : s.rows.map Task.id = s.toList.map Prod.fst := by
    rw [rows, List.map_map]
    refine List.map_congr_left fun e he => h e.1 e.2 ?_
    exact Std.ExtTreeMap.mem_toList_iff_getElem?_eq_some.mp he
  rw [heq]
  exact hkeys

/-- The list of the tasks of a store that meet a filter: each of them once, in ascending order. -/
structure Lists (s : Store) (f : Filter) (key : OrderKey) (ts : List Task) : Prop where
  mem_iff : ∀ t, t ∈ ts ↔ (∃ id : String, s[id]? = some t) ∧ f.keeps t = true
  once : ts.Nodup
  sorted : ts.Pairwise key.Before

theorem Lists.perm (h : s.Lists f key ts) (hs : s.Keyed) : ts.Perm (s.rows.filter f.keeps) := by
  rw [List.perm_ext_iff_of_nodup h.once (hs.nodup_ids.of_map.filter _)]
  intro t
  rw [h.mem_iff, List.mem_filter, mem_rows_iff]

/-- There is at most one such list. -/
theorem Lists.unique (h : s.Lists f key ts) (h' : s.Lists f key ts') : ts = ts' := by
  have hperm : ts.Perm ts' := by
    rw [List.perm_ext_iff_of_nodup h.once h'.once]
    intro t
    rw [h.mem_iff, h'.mem_iff]
  refine List.Perm.eq_of_pairwise (fun a b _ _ hab hba => ?_) h.sorted h'.sorted hperm
  rw [OrderKey.before_iff] at hab hba
  exact absurd (hab.trans hba) (lt_irrefl _)

/-- Sorting makes it. -/
theorem lists_arranged (hs : s.Keyed) (f : Filter) (key : OrderKey) :
    s.Lists f key (Listing.arranged ⟨f, 1, 1, key, .ascending⟩ s.rows) := by
  set l : Listing := ⟨f, 1, 1, key, .ascending⟩
  have hids : ((l.arranged s.rows).map Task.id).Nodup := l.nodup_ids_arranged hs.nodup_ids
  refine ⟨fun t => ?_, hids.of_map, ?_⟩
  · rw [(l.arranged_perm s.rows).mem_iff, List.mem_filter, mem_rows_iff]
  · refine ((l.pairwise_arranged s.rows).and (List.pairwise_map.mp hids)).imp fun {a b} h => ?_
    rw [OrderKey.before_iff]
    exact lt_of_le_of_ne (OrderKey.precedes_iff.mp h.1) fun he => h.2 (OrderKey.id_eq_of_place he)

/-! ## Pages -/

/-- However the tasks are enumerated, a page is cut from their list. -/
theorem Lists.answer (h : s.Lists f key ts) (hs : s.Keyed) (hrows : rows.Perm s.rows) (page size : UInt32)
    (direction : Direction) : Listing.answer ⟨f, page, size, key, direction⟩ rows =
      ((direction.turned ts).drop ((page.toNat - 1) * size.toNat)).take size.toNat := by
  have hids : (rows.map Task.id).Nodup := ((hrows.map _).nodup_iff).mpr hs.nodup_ids
  have hperm : (direction.turned ts).Perm (rows.filter f.keeps) :=
    (direction.turned_perm ts).trans ((h.perm hs).trans (hrows.symm.filter _))
  have heq := Listing.eq_arranged (l := ⟨f, page, size, key, direction⟩) hids hperm (direction.pairwise_turned h.sorted)
  rw [Listing.answer, ← heq]
  rfl

/-- The first `n` pages are the first tasks of the list, each enumeration of the tasks serving for one page. -/
theorem Lists.pages (h : s.Lists f key ts) (hs : s.Keyed) {rows : Nat → List Task} (hrows : ∀ p, (rows p).Perm s.rows)
    (size : UInt32) (direction : Direction) {n : Nat} (hn : n < 2 ^ 32) :
    (List.range n).flatMap (fun p => Listing.answer ⟨f, UInt32.ofNat (p + 1), size, key, direction⟩ (rows p)) =
      (direction.turned ts).take (n * size.toNat) := by
  induction n with
  | zero => simp
  | succ n ih =>
    have hpage : (UInt32.ofNat (n + 1)).toNat - 1 = n := by
      rw [UInt32.toNat_ofNat', Nat.mod_eq_of_lt hn]
      rfl
    rw [List.range_succ, List.flatMap_append, ih (by omega), List.flatMap_singleton, h.answer hs (hrows n), hpage,
      Nat.succ_mul, List.take_add]

theorem Lists.length_eq_count (h : s.Lists f key ts) (hs : s.Keyed) : ts.length = s.count f := by
  rw [count, List.countP_eq_length_filter, (h.perm hs).length_eq]

end Store

/-- In every run, for every filter and order, there is one list of the tasks that meet the filter, each once, in ascending
order of moments and of the bytes of identifiers; it is as long as the count says.  However the tasks are enumerated, a
page of valid number and size is answered with its slice of the list, or of the reversed list where the order descends;
pages past the end are empty; and pages one after another, each from an enumeration of its own, make the list up to their
end, and all of it if there are enough. -/
theorem pages_of_run (paging : Paging) (steps : List Step) (f : Filter) (key : OrderKey) :
    ∃ ts, (Store.after paging steps).Lists f key ts ∧
      (∀ ts', (Store.after paging steps).Lists f key ts' → ts' = ts) ∧
      ts.length = (Store.after paging steps).count f ∧
      ∀ (direction : Direction) (size : UInt32), 1 ≤ size → size ≤ paging.maxSize →
        (∀ (page : UInt32) (rows : List Task), 1 ≤ page → rows.Perm (Store.after paging steps).rows →
          rows.countP f.keeps = (Store.after paging steps).count f ∧
          (Store.after paging steps).list paging.maxSize ⟨f, page, size, key, direction⟩ =
            .ok (Listing.answer ⟨f, page, size, key, direction⟩ rows) ∧
          Listing.answer ⟨f, page, size, key, direction⟩ rows =
            (direction.turned ts).extract ((page.toNat - 1) * size.toNat) (page.toNat * size.toNat) ∧
          page.toNat * size.toNat < 2 ^ 64 ∧
          (ts.length ≤ (page.toNat - 1) * size.toNat →
            Listing.answer ⟨f, page, size, key, direction⟩ rows = [])) ∧
        ∀ (n : Nat) (rows : Nat → List Task), n < 2 ^ 32 → (∀ p, (rows p).Perm (Store.after paging steps).rows) →
          (List.range n).flatMap
              (fun p => Listing.answer ⟨f, UInt32.ofNat (p + 1), size, key, direction⟩ (rows p)) =
            (direction.turned ts).take (n * size.toNat) ∧
          (ts.length ≤ n * size.toNat →
            (List.range n).flatMap
              (fun p => Listing.answer ⟨f, UInt32.ofNat (p + 1), size, key, direction⟩ (rows p)) =
                direction.turned ts) := by
  have hs := Store.keyed_after paging steps
  have h := Store.lists_arranged hs f key
  generalize Listing.arranged _ _ = ts at h
  refine ⟨ts, h, fun ts' h' => h'.unique h, h.length_eq_count hs, fun direction size hsize hmax => ⟨?_, ?_⟩⟩
  · intro page rows hpage hrows
    have hcheck : Listing.check ⟨f, page, size, key, direction⟩ paging.maxSize = .ok () :=
      Listing.check_eq_ok_iff.mpr ⟨hpage, hsize, hmax⟩
    have hpos : 1 ≤ page.toNat := UInt32.le_iff_toNat_le.mp hpage
    refine ⟨hrows.countP_eq _, ?_, ?_, ?_, fun hend => ?_⟩
    · rw [Store.list, hcheck, h.answer hs hrows, h.answer hs (.refl _)]
    · rw [h.answer hs hrows]
      have hwidth : page.toNat * size.toNat - (page.toNat - 1) * size.toNat = size.toNat := by
        rw [← Nat.sub_mul, show page.toNat - (page.toNat - 1) = 1 by omega, Nat.one_mul]
      rw [List.extract, hwidth]
    · calc page.toNat * size.toNat < 2 ^ 32 * 2 ^ 32 := Nat.mul_lt_mul'' page.toNat_lt size.toNat_lt
        _ = 2 ^ 64 := rfl
    · rw [h.answer hs hrows, List.drop_eq_nil_of_le, List.take_nil]
      rw [(direction.turned_perm ts).length_eq]
      exact hend
  · intro n rows hn hrows
    rw [h.pages hs hrows size direction hn]
    refine ⟨rfl, fun henough => List.take_of_length_le ?_⟩
    rw [(direction.turned_perm ts).length_eq]
    exact henough

/-- Three tasks of no organization, two of them of one moment, and one of an organization. -/
def tiedRun : List Step := [
  ⟨.create (Draft.ofUrl "http://[::1]"), Moment.inMinute 0, "tsk_3"⟩,
  ⟨.create (Draft.ofUrl "http://[::1]"), Moment.inMinute 1, "tsk_2"⟩,
  ⟨.create { Draft.ofUrl "http://[::1]" with organization := some "o_1" }, Moment.inMinute 1, "tsk_4"⟩,
  ⟨.create (Draft.ofUrl "http://[::1]"), Moment.inMinute 1, "tsk_1"⟩]

/-- Two pages of two make the whole list of three. -/
theorem pages_of_tiedRun :
    ∃ ts, (Store.after Paging.default tiedRun).Lists Filter.default .created ts ∧ ts.length = 3 ∧
      (List.range 2).flatMap (fun p => Listing.answer ⟨Filter.default, UInt32.ofNat (p + 1), 2, .created, .descending⟩
        (Store.after Paging.default tiedRun).rows) = ts.reverse := by
  obtain ⟨ts, hts, -, hcount, hpages⟩ := pages_of_run Paging.default tiedRun Filter.default .created
  have hlength : ts.length = 3 := by
    rw [hcount]
    rfl
  have hall := (hpages .descending 2 (by decide) (by decide)).2 2 (fun _ => (Store.after Paging.default tiedRun).rows)
    (by decide) (fun _ => .refl _)
  refine ⟨ts, hts, hlength, hall.2 ?_⟩
  rw [hlength]
  decide

end TaskLifecycle
