import TaskLifecycle.Proofs.Pages

/-!
# TaskLifecycle.Proofs.Lookup — several tasks looked up at once

* `Store.Enumerates`: the identifiers of a list, each once, in any order; `Store.enumerates_distinct`: those that are
  looked up.
* `Store.lookups`: what is found under some identifiers; `Store.nodup_ids_lookups`: no task twice;
  `Store.lookups_perm`: which tasks depends on the identifiers that lead to one.
* `found_of_ids`: the tasks of a list of identifiers that an organization owns, each once, however the list is written.
-/

namespace TaskLifecycle
namespace Store

variable {s : Store} {ids ids' keys keys' : List String} {id : String} {scope : Option String} {t : Task}

/-! ## Identifiers -/

/-- The identifiers of a list, each once, in any order. -/
structure Enumerates (keys ids : List String) : Prop where
  once : keys.Nodup
  mem_iff : ∀ id, id ∈ keys ↔ id ∈ ids

theorem distinct_cons (id : String) (ids : List String) :
    distinct (id :: ids) = if (distinct ids).contains id then distinct ids else id :: distinct ids := rfl

/-- Leaving out what comes again leaves every identifier once. -/
theorem enumerates_distinct (ids : List String) : Enumerates (distinct ids) ids := by
  induction ids with
  | nil => exact ⟨List.nodup_nil, fun id => Iff.rfl⟩
  | cons first rest ih =>
    rw [distinct_cons]
    by_cases h : first ∈ distinct rest
    · rw [if_pos (List.contains_iff_mem.mpr h)]
      refine ⟨ih.once, fun id => ?_⟩
      rw [ih.mem_iff, List.mem_cons, or_iff_right_of_imp]
      rintro rfl
      exact (ih.mem_iff id).mp h
    · rw [if_neg fun hc => h (List.contains_iff_mem.mp hc)]
      refine ⟨List.nodup_cons.mpr ⟨h, ih.once⟩, fun id => ?_⟩
      rw [List.mem_cons, List.mem_cons, ih.mem_iff]

/-! ## Lookups -/

/-- What is found under identifiers, one after the other. -/
def lookups (s : Store) (keys : List String) (scope : Option String) : List Task :=
  keys.filterMap (s.find · scope)

theorem findAll_eq_lookups (s : Store) (ids : List String) (scope : Option String) :
    s.findAll ids scope = s.lookups (distinct ids) scope := rfl

theorem mem_lookups_iff : t ∈ s.lookups keys scope ↔ ∃ id ∈ keys, s.find id scope = some t :=
  List.mem_filterMap

theorem mem_lookups_congr (h : ∀ id t, s.find id scope = some t → (id ∈ keys ↔ id ∈ keys')) :
    t ∈ s.lookups keys scope ↔ t ∈ s.lookups keys' scope := by
  rw [mem_lookups_iff, mem_lookups_iff]
  constructor
  · rintro ⟨id, hid, hfind⟩
    exact ⟨id, (h id t hfind).mp hid, hfind⟩
  · rintro ⟨id, hid, hfind⟩
    exact ⟨id, (h id t hfind).mpr hid, hfind⟩

/-- The tasks that an organization owns are found under their own identifiers. -/
theorem Keyed.find_eq_some_iff (hs : s.Keyed) :
    s.find id scope = some t ↔ t ∈ s.rows ∧ t.id = id ∧ t.organization = scope := by
  rw [Store.find_eq_some_iff, mem_rows_iff]
  constructor
  · rintro ⟨hrow, horganization⟩
    exact ⟨⟨id, hrow⟩, hs id t hrow, horganization⟩
  · rintro ⟨⟨key, hrow⟩, rfl, horganization⟩
    rw [hs key t hrow]
    exact ⟨hrow, horganization⟩

theorem Keyed.mem_lookups_iff (hs : s.Keyed) :
    t ∈ s.lookups keys scope ↔ t ∈ s.rows ∧ t.id ∈ keys ∧ t.organization = scope := by
  rw [Store.mem_lookups_iff]
  constructor
  · rintro ⟨id, hid, hfind⟩
    obtain ⟨hrow, rfl, horganization⟩ := hs.find_eq_some_iff.mp hfind
    exact ⟨hrow, hid, horganization⟩
  · rintro ⟨hrow, hid, horganization⟩
    exact ⟨t.id, hid, hs.find_eq_some_iff.mpr ⟨hrow, rfl, horganization⟩⟩

/-- Under different identifiers stand different tasks. -/
theorem nodup_ids_lookups (hs : s.Keyed) (h : keys.Nodup) : ((s.lookups keys scope).map Task.id).Nodup := by
  have hids : (s.lookups keys scope).map Task.id = keys.filterMap fun id => (s.find id scope).map Task.id :=
    List.map_filterMap
  rw [hids]
  refine List.Nodup.filterMap (fun id id' key hid hid' => ?_) h
  obtain ⟨t, hfind, rfl⟩ := Option.map_eq_some_iff.mp hid
  obtain ⟨t', hfind', heq⟩ := Option.map_eq_some_iff.mp hid'
  rw [← (hs.find_eq_some_iff.mp hfind).2.1, ← (hs.find_eq_some_iff.mp hfind').2.1, heq]

/-- Which tasks are found depends on the identifiers that lead to one, not on their order. -/
theorem lookups_perm (hs : s.Keyed) (hkeys : keys.Nodup) (hkeys' : keys'.Nodup)
    (h : ∀ id t, s.find id scope = some t → (id ∈ keys ↔ id ∈ keys')) :
    (s.lookups keys scope).Perm (s.lookups keys' scope) := by
  rw [List.perm_ext_iff_of_nodup (nodup_ids_lookups hs hkeys).of_map (nodup_ids_lookups hs hkeys').of_map]
  intro t
  exact mem_lookups_congr h

end Store

/-- Every store of a run has its tasks under their own identifiers, and in every such store the tasks found under a list of
identifiers are, each of them once, the stored ones that the organization owns and whose identifier is in the list.  They
are what is found under the identifiers one by one; in whatever order the identifiers are gone through, each once, the same
tasks are found; and so they are under every list with the same identifiers of tasks of the organization, however often and
in what order it has them, and whatever others it has. -/
theorem found_of_ids :
    (∀ paging steps, (Store.after paging steps).Keyed) ∧
    ∀ (s : Store), s.Keyed → ∀ (ids : List String) (scope : Option String),
      (∀ t, t ∈ s.findAll ids scope ↔ t ∈ s.rows ∧ t.id ∈ ids ∧ t.organization = scope) ∧
      ((s.findAll ids scope).map Task.id).Nodup ∧
      (∀ t, t ∈ s.findAll ids scope ↔ ∃ id ∈ ids, s.find id scope = some t) ∧
      (∀ keys, Store.Enumerates keys ids → (s.lookups keys scope).Perm (s.findAll ids scope)) ∧
      ∀ ids', (∀ id t, s.find id scope = some t → (id ∈ ids ↔ id ∈ ids')) →
        (s.findAll ids scope).Perm (s.findAll ids' scope) := by
  refine ⟨Store.keyed_after, fun s hs ids scope => ?_⟩
  have hkeys := Store.enumerates_distinct ids
  simp only [Store.findAll_eq_lookups]
  refine ⟨fun t => ?_, Store.nodup_ids_lookups hs hkeys.once, fun t => ?_, fun keys henum => ?_, fun ids' hiff => ?_⟩
  · rw [hs.mem_lookups_iff, hkeys.mem_iff]
  · have hsame : t ∈ s.lookups (Store.distinct ids) scope ↔ t ∈ s.lookups ids scope :=
      Store.mem_lookups_congr fun id _ _ => hkeys.mem_iff id
    rw [hsame, Store.mem_lookups_iff]
  · refine Store.lookups_perm hs henum.once hkeys.once fun id t _ => ?_
    rw [henum.mem_iff, hkeys.mem_iff]
  · have hkeys' := Store.enumerates_distinct ids'
    refine Store.lookups_perm hs hkeys.once hkeys'.once fun id t hfind => ?_
    rw [hkeys.mem_iff, hkeys'.mem_iff, hiff id t hfind]

/-- One identifier comes twice, one is of no task and one of a task of an organization. -/
theorem found_of_tiedRun :
    (Store.after Paging.default tiedRun).Keyed ∧
      (∀ id t, (Store.after Paging.default tiedRun).find id none = some t →
        (id ∈ ["tsk_2", "tsk_9", "tsk_4", "tsk_2", "tsk_1"] ↔ id ∈ ["tsk_1", "tsk_2"])) ∧
      ((Store.after Paging.default tiedRun).findAll ["tsk_2", "tsk_9", "tsk_4", "tsk_2", "tsk_1"] none).Perm
        ((Store.after Paging.default tiedRun).findAll ["tsk_1", "tsk_2"] none) := by
  have hkeyed : (Store.after Paging.default tiedRun).Keyed := found_of_ids.1 Paging.default tiedRun
  have hunknown : (Store.after Paging.default tiedRun).find "tsk_9" none = none := rfl
  have hforeign : (Store.after Paging.default tiedRun).find "tsk_4" none = none := rfl
  have hids (id : String) (t : Task) (hfind : (Store.after Paging.default tiedRun).find id none = some t) :
      id ∈ ["tsk_2", "tsk_9", "tsk_4", "tsk_2", "tsk_1"] ↔ id ∈ ["tsk_1", "tsk_2"] := by
    have hne : id ≠ "tsk_9" := by
      rintro rfl
      rw [hunknown] at hfind
      cases hfind
    have hne' : id ≠ "tsk_4" := by
      rintro rfl
      rw [hforeign] at hfind
      cases hfind
    simp only [List.mem_cons, List.not_mem_nil, or_false, hne, hne', false_or]
    tauto
  exact ⟨hkeyed, hids, (found_of_ids.2 _ hkeyed _ none).2.2.2.2 _ hids⟩

end TaskLifecycle
