import Mathlib.Data.String.Basic
import TaskLifecycle.Proofs.Json.Limits

/-!
# TaskLifecycle.Proofs.Json.Normal — cleaning a value twice

A cleaned value has the keys of its objects in order, each once, whatever value it was made of, and it does not hold
U+0000.  A value that is so is its own cleaned form.

* `Json.pairwise_add`, `Json.add_of_forall_lt`: an entry keeps the keys in order, and one with the least key goes in front.
* `Json.sorted_clean`: cleaned values are sorted.
* `Json.clean_eq_self`: sorted values without the character stay as they are; `Json.clean_clean`: so do cleaned ones.
-/

namespace TaskLifecycle

theorem withoutNul_eq_self {s : String} (h : NulFree s) : withoutNul s = s := by
  have hkeep : s.toList.filter (· ≠ '\x00') = s.toList := by
    rw [List.filter_eq_self]
    intro c hc
    exact decide_eq_true fun heq => h (heq ▸ hc)
  rw [withoutNul, hkeep, String.ofList_toList]

namespace Json

variable {key : String} {value : Json} {entries : List (String × Json)}

/-! ## Entries in order -/

/-- The keys of some entries are in strictly ascending order. -/
def Ascending (entries : List (String × Json)) : Prop :=
  (entries.map Prod.fst).Pairwise (· < ·)

theorem ascending_cons {k : String} {v : Json} {rest : List (String × Json)} :
    Ascending ((k, v) :: rest) ↔ (∀ e ∈ rest, k < e.1) ∧ Ascending rest := by
  rw [Ascending, List.map_cons, List.pairwise_cons, List.forall_mem_map]
  rfl

/-- An entry goes in front of those with greater keys. -/
theorem add_of_forall_lt (h : ∀ e ∈ entries, key < e.1) : add key value entries = (key, value) :: entries := by
  cases entries with
  | nil => rfl
  | cons entry rest => exact if_pos (h entry List.mem_cons_self)

/-- Wherever an entry goes, what is less than its key and the others stays so. -/
theorem lt_of_mem_add {k : String} (hkey : k < key) (h : ∀ e ∈ entries, k < e.1) :
    ∀ e ∈ add key value entries, k < e.1 := by
  intro e he
  rcases mem_add he with rfl | he
  · exact hkey
  · exact h e he

theorem ascending_add (key : String) (value : Json) (h : Ascending entries) : Ascending (add key value entries) := by
  induction entries with
  | nil => exact List.pairwise_singleton _ _
  | cons entry rest ih =>
    obtain ⟨k, v⟩ := entry
    obtain ⟨hfirst, hrest⟩ := ascending_cons.mp h
    unfold add
    split_ifs with hlt heq
    · refine ascending_cons.mpr ⟨?_, h⟩
      rintro e he
      rcases List.mem_cons.mp he with rfl | he
      · exact hlt
      · exact lt_trans hlt (hfirst e he)
    · exact h
    · have hgt : k < key := lt_of_le_of_ne (not_lt.mp hlt) (Ne.symm heq)
      exact ascending_cons.mpr ⟨lt_of_mem_add hgt hfirst, ih hrest⟩

theorem sortedEntries_add (hvalue : value.Sorted) (h : SortedEntries entries) :
    SortedEntries (add key value entries) := by
  induction entries with
  | nil => exact ⟨hvalue, trivial⟩
  | cons entry rest ih =>
    obtain ⟨k, v⟩ := entry
    obtain ⟨hv, hrest⟩ := h
    unfold add
    split_ifs with hlt heq
    · exact ⟨hvalue, hv, hrest⟩
    · exact ⟨hv, hrest⟩
    · exact ⟨hv, ih hrest⟩

theorem ascending_ofPairs (pairs : List (String × Json)) : Ascending (ofPairs pairs) := by
  induction pairs with
  | nil => exact List.Pairwise.nil
  | cons entry rest ih => exact ascending_add _ _ ih

/-! ## Cleaned values -/

theorem cleanEntries_eq_ofPairs (entries : List (String × Json)) :
    cleanEntries entries = ofPairs (entries.map fun e => (withoutNul e.1, e.2.clean)) := by
  induction entries with
  | nil => rfl
  | cons entry rest ih =>
    rw [cleanEntries, ih]
    rfl

theorem ascending_cleanEntries (entries : List (String × Json)) : Ascending (cleanEntries entries) := by
  rw [cleanEntries_eq_ofPairs]
  exact ascending_ofPairs _

mutual

/-- Cleaned values are sorted, whatever they were made of. -/
theorem sorted_clean : ∀ v : Json, v.clean.Sorted
  | .null | .bool _ | .number _ | .string _ => trivial
  | .array items => sortedItems_cleanItems items
  | .object entries => ⟨ascending_cleanEntries entries, sortedEntries_cleanEntries entries⟩

theorem sortedItems_cleanItems : ∀ items : List Json, SortedItems (cleanItems items)
  | [] => trivial
  | v :: rest => ⟨sorted_clean v, sortedItems_cleanItems rest⟩

theorem sortedEntries_cleanEntries : ∀ entries : List (String × Json), SortedEntries (cleanEntries entries)
  | [] => trivial
  | (_, v) :: rest => sortedEntries_add (sorted_clean v) (sortedEntries_cleanEntries rest)

end

/-! ## Values that are clean -/

mutual

/-- A sorted value that does not hold the character is its own cleaned form. -/
theorem clean_eq_self : ∀ v : Json, v.Sorted → (∀ s ∈ v.texts, NulFree s) → v.clean = v
  | .null, _, _ | .bool _, _, _ | .number _, _, _ => rfl
  | .string s, _, hfree => by
    rw [clean, withoutNul_eq_self (hfree s List.mem_cons_self)]
  | .array items, hsorted, hfree => by
    rw [clean, cleanItems_eq_self items hsorted hfree]
  | .object entries, hsorted, hfree => by
    rw [clean, cleanEntries_eq_self entries hsorted.1 hsorted.2 hfree]

theorem cleanItems_eq_self : ∀ items : List Json, SortedItems items → (∀ s ∈ itemTexts items, NulFree s) →
    cleanItems items = items
  | [], _, _ => rfl
  | v :: rest, hsorted, hfree => by
    have hv : ∀ s ∈ v.texts, NulFree s := fun s hs => hfree s (List.mem_append_left _ hs)
    have hrest : ∀ s ∈ itemTexts rest, NulFree s := fun s hs => hfree s (List.mem_append_right _ hs)
    rw [cleanItems, clean_eq_self v hsorted.1 hv, cleanItems_eq_self rest hsorted.2 hrest]

theorem cleanEntries_eq_self : ∀ entries : List (String × Json), Ascending entries → SortedEntries entries →
    (∀ s ∈ entryTexts entries, NulFree s) → cleanEntries entries = entries
  | [], _, _, _ => rfl
  | (k, v) :: rest, hkeys, hsorted, hfree => by
    obtain ⟨hfirst, hkeysRest⟩ := ascending_cons.mp hkeys
    have hk : NulFree k := hfree k (mem_entryTexts_cons.mpr (.inl rfl))
    have hv : ∀ s ∈ v.texts, NulFree s := fun s hs => hfree s (mem_entryTexts_cons.mpr (.inr (.inl hs)))
    have hrest : ∀ s ∈ entryTexts rest, NulFree s := fun s hs => hfree s (mem_entryTexts_cons.mpr (.inr (.inr hs)))
    rw [cleanEntries, withoutNul_eq_self hk, clean_eq_self v hsorted.1 hv,
      cleanEntries_eq_self rest hkeysRest hsorted.2 hrest]
    -- the entry has the least key of all
    exact add_of_forall_lt hfirst

end

/-- Cleaning a value twice is cleaning it once. -/
theorem clean_clean (v : Json) : v.clean.clean = v.clean :=
  clean_eq_self v.clean (sorted_clean v) (nulFree_clean v)

end Json
end TaskLifecycle
