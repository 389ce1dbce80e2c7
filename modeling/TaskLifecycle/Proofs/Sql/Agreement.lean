import TaskLifecycle.Proofs.Sql.Meaning

/-!
# TaskLifecycle.Proofs.Sql.Agreement — a table and a store answer alike

* `Store.ofRows`: the store of the rows of a table; `Store.rows_ofRows_perm`: it holds these rows and no others.
* `met_filtered_iff`: the conditions for a filter are true of the tasks that it keeps; `filtered_eq_map`: there is at
  least one.
* `slice_eq`: an offset beyond the greatest number may be sent as that number, for no table has so many rows.
* `yields_of_rows`: statements for filters and for pages are answered as the store answers.
-/

namespace TaskLifecycle

/-! ## Rows of a table -/

namespace Store

/-- The store with these tasks. -/
def ofRows (rows : List Task) : Store :=
  rows.foldr (fun t s => s.insert t.id t) empty

variable {rows : List Task}

theorem keyed_ofRows (rows : List Task) : (ofRows rows).Keyed := by
  induction rows with
  | nil => exact keyed_empty
  | cons t rows ih => exact ih.insert t

theorem getElem?_ofRows (hids : (rows.map Task.id).Nodup) {id : String} {t : Task} :
    (ofRows rows)[id]? = some t ↔ t ∈ rows ∧ t.id = id := by
  induction rows with
  | nil => simp [ofRows, getElem?_empty]
  | cons u rows ih =>
    obtain ⟨hu, hrest⟩ := List.nodup_cons.mp hids
    show ((ofRows rows).insert u.id u)[id]? = some t ↔ _
    rw [getElem?_insert, List.mem_cons]
    by_cases h : u.id = id
    · rw [if_pos h, Option.some.injEq]
      constructor
      · rintro rfl
        exact ⟨.inl rfl, h⟩
      · rintro ⟨rfl | ht, hid⟩
        · rfl
        · exact absurd (List.mem_map.mpr ⟨t, ht, hid.trans h.symm⟩) hu
    · rw [if_neg h, ih hrest]
      constructor
      · exact fun ⟨ht, hid⟩ => ⟨.inr ht, hid⟩
      · rintro ⟨rfl | ht, hid⟩
        · exact absurd hid h
        · exact ⟨ht, hid⟩

/-- The store holds these rows and no others. -/
theorem rows_ofRows_perm (hids : (rows.map Task.id).Nodup) : (ofRows rows).rows.Perm rows := by
  rw [List.perm_ext_iff_of_nodup (keyed_ofRows rows).nodup_ids.of_map hids.of_map]
  intro t
  rw [mem_rows_iff]
  simp only [getElem?_ofRows hids, exists_and_left, exists_eq', and_true]

end Store

namespace Sql

/-! ## Filters -/

/-- All the conditions among clauses are true of a row. -/
def Met (t : Task) (cs : List Clause) : Prop :=
  ∀ c, .condition c ∈ cs → c.truth t = .yes

variable {t : Task}

theorem met_append {as bs : List Clause} : Met t (as ++ bs) ↔ Met t as ∧ Met t bs := by
  simp only [Met, List.mem_append, or_imp, forall_and]

theorem met_nil : Met t [] :=
  nofun

theorem met_singleton {c : Condition} : Met t [.condition c] ↔ c.truth t = .yes := by
  simp [Met]

theorem met_scope_iff (organization : Option String) : Met t (scope organization) ↔ t.inScope organization = true := by
  cases organization with
  | none =>
    rw [scope, met_singleton, Condition.truth, Truth.of_eq_yes_iff, Task.inScope, Option.isNone_iff_eq_none, beq_iff_eq]
    rfl
  | some organization =>
    rw [scope, met_singleton, Condition.truth, same_eq_yes_iff, Task.inScope, beq_iff_eq]
    rfl

theorem met_inStatuses_iff (statuses : List Status) :
    Met t (inStatuses statuses) ↔ (statuses.isEmpty || statuses.contains t.status) = true := by
  have hword : Function.Injective Status.word := by
    intro a b h
    rw [← Option.some.injEq, ← Status.ofWord?_word a, h, Status.ofWord?_word]
  unfold inStatuses
  cases hempty : statuses.isEmpty with
  | true => exact iff_of_true met_nil rfl
  | false =>
    rw [if_neg Bool.false_ne_true, met_singleton, Condition.truth_among_eq_yes_iff, Bool.false_or]
    simp only [Column.text?, Option.some.injEq, exists_eq_right', List.mem_map_of_injective hword,
      List.contains_iff_mem]

theorem met_withText_iff (column : Column) (text : Option String) :
    Met t (withText column text) ↔ Filter.asks text (column.text? t) = true := by
  cases text with
  | none => exact iff_of_true met_nil rfl
  | some text =>
    rw [withText, met_singleton, Condition.truth, same_eq_yes_iff, Filter.asks, Option.isNone_some, Bool.false_or,
      beq_iff_eq]
    exact eq_comm

theorem met_standalone_iff (only : Bool) :
    Met t (if only then standalone else []) ↔ (!only || t.workflowRun.isNone) = true := by
  cases only with
  | false => exact iff_of_true met_nil rfl
  | true =>
    rw [if_pos rfl, standalone, met_singleton, Condition.truth, Truth.of_eq_yes_iff, Bool.not_true, Bool.false_or]
    rfl

/-- The conditions for a filter are true of the tasks that it keeps. -/
theorem met_filtered_iff (f : Filter) : Met t (filtered f) ↔ f.keeps t = true := by
  simp only [filtered, met_append, met_scope_iff, met_inStatuses_iff, met_withText_iff, met_standalone_iff,
    Filter.keeps, Bool.and_eq_true]
  rfl

/-- A filter makes at least one condition, and nothing but conditions. -/
theorem filtered_eq_map (f : Filter) : ∃ c cs, filtered f = (c :: cs).map Clause.condition := by
  have hscope : ∃ c, scope f.organization = [.condition c] := by
    cases h : f.organization with
    | none => exact ⟨_, rfl⟩
    | some organization => exact ⟨_, rfl⟩
  have hstatuses : ∃ cs : List Condition, inStatuses f.statuses = cs.map Clause.condition := by
    unfold inStatuses
    split
    · exact ⟨[], rfl⟩
    · exact ⟨[_], rfl⟩
  have htext : ∀ column text, ∃ cs : List Condition, withText column text = cs.map Clause.condition := by
    intro column text
    cases text with
    | none => exact ⟨[], rfl⟩
    | some text => exact ⟨[_], rfl⟩
  have hstandalone : ∃ cs : List Condition, (if f.onlyStandalone then standalone else []) = cs.map Clause.condition := by
    split
    · exact ⟨[_], rfl⟩
    · exact ⟨[], rfl⟩
  obtain ⟨c, hc⟩ := hscope
  obtain ⟨cs, hcs⟩ := hstatuses
  obtain ⟨ds, hds⟩ := htext .workflowRun f.workflowRun
  obtain ⟨es, hes⟩ := hstandalone
  obtain ⟨fs, hfs⟩ := htext .application f.application
  refine ⟨c, cs ++ ds ++ es ++ fs, ?_⟩
  rw [filtered, hc, hcs, hds, hes, hfs]
  simp only [List.map_cons, List.map_append, List.cons_append, List.nil_append, List.append_assoc]

theorem keeps_eq {f : Filter} {c : Condition} {cs : List Condition} {q : Query}
    (hf : filtered f = (c :: cs).map .condition) (hq : q.conditions = c :: cs) : q.keeps = f.keeps := by
  funext t
  rw [Bool.eq_iff_iff, ← met_filtered_iff, hf, Query.keeps, beq_iff_eq, Query.truth_eq_yes_iff, hq]
  simp only [Met, List.mem_map, Clause.condition.injEq, exists_eq_right]

/-- The statement for a filter makes a query that keeps what the filter keeps. -/
theorem query_filtered (sel : Selection) (f : Filter) :
    ∃ q, ((Statement.start sel).add (filtered f)).query = some q ∧ q.selected = sel.selected ∧ q.keeps = f.keeps ∧
      q.order = [] ∧ q.limit = none ∧ q.offset = none := by
  obtain ⟨c, cs, hf⟩ := filtered_eq_map f
  refine ⟨⟨sel.selected, c :: cs, [], none, none⟩, ?_, rfl, keeps_eq hf rfl, rfl, rfl, rfl⟩
  rw [hf]
  exact query_conditions sel c cs

/-! ## Pages -/

/-- The statement for a page makes a query for it, with the greatest number for an offset beyond. -/
theorem query_listed (l : Listing) :
    ∃ q, ((Statement.start .rows).add (listed l)).query = some q ∧ q.selected = .columns columns ∧
      q.keeps = l.filter.keeps ∧ q.order = [⟨.moment l.key, l.direction⟩, ⟨.text .id, l.direction⟩] ∧
      q.limit = some l.size.toNat ∧ q.offset = some (min l.offset maxNumber) := by
  obtain ⟨c, cs, hf⟩ := filtered_eq_map l.filter
  have hlimit : (0 : Int) ≤ l.size.toNat ∧ (l.size.toNat : Int) ≤ maxNumber := by
    have hsize : l.size.toNat < 2 ^ 32 := l.size.toNat_lt
    have hmax : maxNumber = 2 ^ 63 - 1 := rfl
    omega
  have hoffset : (0 : Int) ≤ min (l.offset : Int) maxNumber ∧ min (l.offset : Int) maxNumber ≤ maxNumber := by
    omega
  have hquery := query_page .rows c cs l.key l.direction hlimit hoffset
  have hmin : (min (l.offset : Int) maxNumber).toNat = min l.offset maxNumber := by
    omega
  rw [Int.toNat_natCast, hmin] at hquery
  refine ⟨⟨.columns columns, c :: cs, [⟨.moment l.key, l.direction⟩, ⟨.text .id, l.direction⟩], some l.size.toNat,
    some (min l.offset maxNumber)⟩, ?_, rfl, keeps_eq hf rfl, rfl, rfl, rfl⟩
  rw [listed, hf]
  exact hquery

/-- The offset of a listing as it is sent cuts the same page from rows that are no more than numbers go. -/
theorem slice_eq {q : Query} {l : Listing} {ts : List Task} (hlimit : q.limit = some l.size.toNat)
    (hoffset : q.offset = some (min l.offset maxNumber)) (hts : ts.length ≤ maxNumber) :
    q.slice ts = (ts.drop l.offset).take l.size.toNat := by
  have hdrop : ts.drop (min l.offset maxNumber) = ts.drop l.offset := by
    rcases Nat.le_total l.offset maxNumber with h | h
    · rw [Nat.min_eq_left h]
    · rw [Nat.min_eq_right h, List.drop_eq_nil_of_le hts, List.drop_eq_nil_of_le (hts.trans h)]
  unfold Query.slice
  rw [hlimit, hoffset, Option.getD_some, hdrop]
  rfl

theorem yields_iff {s : Statement} {q : Query} {rows : List Task} {r : Result} (h : s.query = some q) :
    s.Yields rows r ↔ q.Answers rows r := by
  simp only [Statement.Yields, h, Option.some.injEq, exists_eq_left']

end Sql

open Sql

/-- For rows with identifiers of their own, and the store with the same tasks: the conditions of a statement for a filter
are true of the rows that the filter keeps and of no others; a statement that counts has one answer, the number that the
store counts; and a statement for a page of valid number and size has one answer, the tasks that the store lists, if the
rows are no more than an offset can say. -/
theorem yields_of_rows {rows : List Task} (hids : (rows.map Task.id).Nodup) :
    (∀ (sel : Selection) (f : Filter), ∃ q, ((Statement.start sel).add (filtered f)).query = some q ∧
      ∀ t, q.truth t = .yes ↔ f.keeps t = true) ∧
    (∀ f r, ((Statement.start .count).add (filtered f)).Yields rows r ↔
      r = .count ((Store.ofRows rows).count f)) ∧
    ∀ (maxSize : UInt32) (l : Listing), l.check maxSize = .ok () → rows.length < 2 ^ 63 →
      ∃ ts, (Store.ofRows rows).list maxSize l = .ok ts ∧
        ∀ r, ((Statement.start .rows).add (listed l)).Yields rows r ↔ r = .rows columns ts := by
  have hperm := Store.rows_ofRows_perm hids
  refine ⟨fun sel f => ?_, fun f r => ?_, fun maxSize l hcheck hrows => ⟨l.answer (Store.ofRows rows).rows, ?_, ?_⟩⟩
  · obtain ⟨q, hquery, -, hkeeps, -⟩ := query_filtered sel f
    refine ⟨q, hquery, fun t => ?_⟩
    rw [← hkeeps, Query.keeps, beq_iff_eq]
  · obtain ⟨q, hquery, hselected, hkeeps, hplain⟩ := query_filtered .count f
    rw [yields_iff hquery, Query.answers_count_iff hselected hplain, hkeeps, Store.count, hperm.countP_eq]
  · rw [Store.list, hcheck]
  · intro r
    obtain ⟨q, hquery, hselected, hkeeps, horder, hlimit, hoffset⟩ := query_listed l
    have harranged : l.arranged (Store.ofRows rows).rows = l.arranged rows :=
      Listing.arranged_congr hids (hperm.filter _)
    have hlength : (l.arranged rows).length ≤ maxNumber := by
      have hle : (l.arranged rows).length ≤ rows.length := by
        rw [(l.arranged_perm rows).length_eq]
        exact List.length_filter_le _ _
      have hmax : maxNumber = 2 ^ 63 - 1 := rfl
      omega
    rw [yields_iff hquery, Query.answers_rows_iff hids hselected hkeeps horder, slice_eq hlimit hoffset hlength,
      Listing.answer, harranged]

/-- Two tasks of no organization, of one moment, and an older one of an organization. -/
def tiedRows : List Task := [
  (Draft.ofUrl "http://[::1]").task "tsk_2" (Moment.inMinute 1),
  { Draft.ofUrl "http://[::1]" with organization := some "o_1" }.task "tsk_3" (Moment.inMinute 0),
  (Draft.ofUrl "http://[::1]").task "tsk_1" (Moment.inMinute 1)]

/-- The tasks of no organization are two, and a page of one of them is that of the store. -/
theorem yields_of_tiedRows :
    (tiedRows.map Task.id).Nodup ∧
      ((Statement.start .count).add (filtered Filter.default)).Yields tiedRows (.count 2) ∧
      ∃ ts, (Store.ofRows tiedRows).list 100 ⟨Filter.default, 2, 1, .created, .descending⟩ = .ok ts ∧
        ((Statement.start .rows).add (listed ⟨Filter.default, 2, 1, .created, .descending⟩)).Yields tiedRows
          (.rows columns ts) := by
  have hids : (tiedRows.map Task.id).Nodup := by decide
  obtain ⟨-, hcount, hpage⟩ := yields_of_rows hids
  obtain ⟨ts, hlist, hyields⟩ := hpage 100 ⟨Filter.default, 2, 1, .created, .descending⟩ rfl (by decide)
  exact ⟨hids, (hcount Filter.default (.count 2)).mpr rfl, ts, hlist, (hyields _).mpr rfl⟩

end TaskLifecycle
