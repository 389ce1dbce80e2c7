import TaskLifecycle.Setting

/-!
# TaskLifecycle.Proofs.Setting — what stands under the keys of laid settings

* `lookup_eq_some_iff`, `Setting.find?_eq_some_iff`: the entries of a table with distinct keys.
* `Setting.get?_insert`: an entry under a key.
* `Setting.get?_mergeEntries`: entries laid over a table, `Setting.get?_mergeEntries_of_forall_ne`: under other keys;
  `Setting.merge_of_value`: a value laid over anything.
-/

namespace TaskLifecycle

section

variable {α : Type} {es : List (String × α)} {k : String} {v : α}

theorem lookup_eq_none (h : k ∉ es.map Prod.fst) : es.lookup k = none := by
  rw [List.lookup_eq_none_iff]
  intro e he
  exact bne_iff_ne.mpr fun hk => h (hk ▸ List.mem_map_of_mem he)

/-- Under a key stands the value of the one entry with that key. -/
theorem lookup_eq_some_iff (hkeys : (es.map Prod.fst).Nodup) : es.lookup k = some v ↔ (k, v) ∈ es := by
  rw [List.lookup_eq_some_iff]
  constructor
  · rintro ⟨before, after, rfl, -⟩
    exact List.mem_append_right _ List.mem_cons_self
  · intro hmem
    obtain ⟨before, after, rfl⟩ := List.append_of_mem hmem
    rw [List.map_append, List.nodup_append] at hkeys
    refine ⟨before, after, rfl, fun e he => bne_iff_ne.mpr fun hk => ?_⟩
    exact hkeys.2.2 e.1 (List.mem_map_of_mem he) k (List.mem_map_of_mem List.mem_cons_self) hk.symm

end

namespace Setting

variable {key k : String} {value v s below : Setting} {es : List (String × Setting)}

theorem find?_put : find? k (put key value es) = if key = k then some value else find? k es := by
  induction es with
  | nil => rfl
  | cons e rest ih =>
    obtain ⟨name, w⟩ := e
    by_cases hname : name = key
    · subst hname
      rw [put, if_pos rfl]
      simp only [find?]
      split <;> rfl
    · rw [put, if_neg hname]
      simp only [find?, ih]
      split
      · rename_i hk
        rw [if_neg fun hkey => hname (hk.trans hkey.symm)]
      · rfl

theorem get?_insert : (s.insert key value).get? k = if key = k then some value else s.get? k :=
  find?_put

/-- What has something under a key is a table. -/
theorem eq_table_of_get? (h : s.get? k = some v) : ∃ es, s = .table es := by
  cases s with
  | table es => exact ⟨es, rfl⟩
  | nil | flag | whole | real | text | list => cases h

theorem find?_eq_lookup : find? k es = es.lookup k := by
  induction es with
  | nil => rfl
  | cons e rest ih =>
    obtain ⟨name, w⟩ := e
    rw [List.lookup_cons, find?, ih]
    by_cases hname : name = k
    · rw [if_pos hname, hname, beq_self_eq_true]
    · rw [if_neg hname, beq_false_of_ne (Ne.symm hname)]

theorem find?_eq_none (h : k ∉ es.map Prod.fst) : find? k es = none := by
  rw [find?_eq_lookup, lookup_eq_none h]

theorem find?_eq_some_iff (hkeys : (es.map Prod.fst).Nodup) : find? k es = some v ↔ (k, v) ∈ es := by
  rw [find?_eq_lookup, lookup_eq_some_iff hkeys]

/-! ## Layers -/

/-- A setting that is no table. -/
def IsValue (s : Setting) : Prop :=
  ∀ es, s ≠ .table es

/-- What is no table replaces what it is laid over. -/
theorem merge_of_value (h : v.IsValue) (below : Option Setting) : merge below v = v := by
  cases v with
  | table es => exact absurd rfl (h es)
  | nil | flag | whole | real | text | list => rfl

/-- Values laid over a table take the place of what had their keys. -/
theorem get?_mergeEntries (hkeys : (es.map Prod.fst).Nodup) (hlower : ∀ e ∈ es, lower e.1 = e.1)
    (hvalues : ∀ e ∈ es, e.2.IsValue) : (mergeEntries below es).get? k = (find? k es).or (below.get? k) := by
  induction es generalizing below with
  | nil => rfl
  | cons e rest ih =>
    obtain ⟨name, w⟩ := e
    rw [List.map_cons, List.nodup_cons] at hkeys
    obtain ⟨hname, hrestLower⟩ := List.forall_mem_cons.mp hlower
    obtain ⟨hw, hrestValues⟩ := List.forall_mem_cons.mp hvalues
    rw [mergeEntries, ih hkeys.2 hrestLower hrestValues, hname, merge_of_value hw, get?_insert, find?]
    by_cases hk : name = k
    · rw [if_pos hk, if_pos hk, find?_eq_none (hk ▸ hkeys.1)]
      rfl
    · rw [if_neg hk, if_neg hk]

theorem mergeEntries_append (before after : List (String × Setting)) :
    mergeEntries below (before ++ after) = mergeEntries (mergeEntries below before) after := by
  induction before generalizing below with
  | nil => rfl
  | cons e rest ih =>
    obtain ⟨name, w⟩ := e
    rw [List.cons_append, mergeEntries, mergeEntries, ih]

/-- Entries with other keys leave what stands under a key. -/
theorem get?_mergeEntries_of_forall_ne (h : ∀ e ∈ es, lower e.1 ≠ k) : (mergeEntries below es).get? k = below.get? k := by
  induction es generalizing below with
  | nil => rfl
  | cons e rest ih =>
    obtain ⟨name, w⟩ := e
    obtain ⟨hname, hrest⟩ := List.forall_mem_cons.mp h
    rw [mergeEntries, ih hrest, get?_insert, if_neg hname]

theorem mergeEntries_eq_table (below es : List (String × Setting)) : ∃ out, mergeEntries (.table below) es = .table out := by
  induction es generalizing below with
  | nil => exact ⟨below, rfl⟩
  | cons e rest ih => exact ih _

end Setting
end TaskLifecycle
