import TaskLifecycle.Json.Limits
import TaskLifecycle.Proofs.Clean
import TaskLifecycle.Proofs.Json.Size

/-!
# TaskLifecycle.Proofs.Json.Limits — a value that keeps its limits keeps them when it is cleaned

* `Json.checkParts_string_iff`, `Json.checkParts_array_iff`, `Json.checkParts_object_iff`: when the parts of a value keep
  their limits.
* `Json.mem_add`, `Json.length_cleanEntries_le`: entries of a cleaned object come from entries of the object, and there
  are not more of them.
* `Json.check_clean`: a cleaned value keeps every limit that the value keeps.
-/

namespace TaskLifecycle

/-- A check whose first part is a guard. -/
theorem guard_eq_ok_iff {ε : Type} {p : Prop} [Decidable p] {fault : ε} {rest : Except ε Unit} :
    (if p then .error fault else rest) = .ok () ↔ ¬p ∧ rest = .ok () := by
  by_cases h : p <;> simp [h]

namespace Json

variable {level : Nat} {items : List Json} {entries : List (String × Json)}

/-! ## Limits of the parts -/

theorem checkItems_eq_ok_iff : checkItems level items = .ok () ↔ ∀ v ∈ items, checkParts (level + 1) v = .ok () := by
  induction items with
  | nil => simp [checkItems]
  | cons v rest ih =>
    rw [List.forall_mem_cons, ← ih, checkItems]
    cases checkParts (level + 1) v <;> simp

/-- An entry of an object at a level keeps its limits. -/
def EntryFits (level : Nat) (entry : String × Json) : Prop :=
  entry.1.length ≤ maxLength ∧ checkParts (level + 1) entry.2 = .ok ()

theorem checkEntries_eq_ok_iff : checkEntries level entries = .ok () ↔ ∀ e ∈ entries, EntryFits level e := by
  induction entries with
  | nil => simp [checkEntries]
  | cons entry rest ih =>
    obtain ⟨k, v⟩ := entry
    rw [List.forall_mem_cons, ← ih, checkEntries, guard_eq_ok_iff, Nat.not_lt, EntryFits, and_assoc]
    cases checkParts (level + 1) v <;> simp

theorem checkParts_string_iff {s : String} :
    checkParts level (.string s) = .ok () ↔ level ≤ maxDepth ∧ s.length ≤ maxLength := by
  rw [checkParts, guard_eq_ok_iff, guard_eq_ok_iff, Nat.not_lt, Nat.not_lt]
  simp

theorem checkParts_array_iff : checkParts level (.array items) = .ok () ↔
    level ≤ maxDepth ∧ items.length ≤ maxEntries ∧ ∀ v ∈ items, checkParts (level + 1) v = .ok () := by
  rw [checkParts, guard_eq_ok_iff, guard_eq_ok_iff, Nat.not_lt, Nat.not_lt, checkItems_eq_ok_iff]

theorem checkParts_object_iff : checkParts level (.object entries) = .ok () ↔
    level ≤ maxDepth ∧ entries.length ≤ maxEntries ∧ ∀ e ∈ entries, EntryFits level e := by
  rw [checkParts, guard_eq_ok_iff, guard_eq_ok_iff, Nat.not_lt, Nat.not_lt, checkEntries_eq_ok_iff]

theorem check_eq_ok_iff {v : Json} : v.check = .ok () ↔ v.size ≤ maxSize ∧ checkParts 0 v = .ok () := by
  rw [check, guard_eq_ok_iff, Nat.not_lt]

/-! ## Cleaned parts -/

theorem length_withoutNul_le (s : String) : (withoutNul s).length ≤ s.length := by
  rw [withoutNul, String.length_ofList, ← String.length_toList]
  exact List.length_filter_le _ _

theorem mem_add {key : String} {value : Json} {e : String × Json} (h : e ∈ add key value entries) :
    e = (key, value) ∨ e ∈ entries := by
  induction entries with
  | nil => exact .inl (List.mem_singleton.mp h)
  | cons entry rest ih =>
    obtain ⟨k, v⟩ := entry
    unfold add at h
    split_ifs at h with hlt heq
    · exact List.mem_cons.mp h
    · exact .inr h
    · rcases List.mem_cons.mp h with h | h
      · exact .inr (List.mem_cons.mpr (.inl h))
      · rcases ih h with h | h
        · exact .inl h
        · exact .inr (List.mem_cons_of_mem _ h)

theorem length_add_le (key : String) (value : Json) (entries : List (String × Json)) :
    (add key value entries).length ≤ entries.length + 1 := by
  induction entries with
  | nil => exact Nat.le_refl _
  | cons entry rest ih =>
    obtain ⟨k, v⟩ := entry
    unfold add
    split_ifs with hlt heq
    · exact Nat.le_refl _
    · exact Nat.le_succ _
    · simpa using ih

theorem length_cleanEntries_le (entries : List (String × Json)) : (cleanEntries entries).length ≤ entries.length := by
  induction entries with
  | nil => exact Nat.le_refl _
  | cons entry rest ih =>
    obtain ⟨k, v⟩ := entry
    rw [cleanEntries]
    exact Nat.le_trans (length_add_le _ _ _) (Nat.succ_le_succ ih)

mutual

/-- Where the parts of a value keep their limits, those of the cleaned value do. -/
theorem checkParts_clean : ∀ (level : Nat) (v : Json), checkParts level v = .ok () → checkParts level v.clean = .ok ()
  | _, .null, h | _, .bool _, h | _, .number _, h => h
  | _, .string s, h => by
    rw [checkParts_string_iff] at h
    rw [clean, checkParts_string_iff]
    exact ⟨h.1, Nat.le_trans (length_withoutNul_le s) h.2⟩
  | level, .array items, h => by
    obtain ⟨hlevel, hlength, hitems⟩ := checkParts_array_iff.mp h
    rw [clean, checkParts_array_iff]
    refine ⟨hlevel, ?_, checkParts_cleanItems (level + 1) items hitems⟩
    rw [cleanItems_eq_map, List.length_map]
    exact hlength
  | level, .object entries, h => by
    obtain ⟨hlevel, hlength, hentries⟩ := checkParts_object_iff.mp h
    rw [clean, checkParts_object_iff]
    exact ⟨hlevel, Nat.le_trans (length_cleanEntries_le entries) hlength, entryFits_cleanEntries level entries hentries⟩

theorem checkParts_cleanItems : ∀ (level : Nat) (items : List Json), (∀ v ∈ items, checkParts level v = .ok ()) →
    ∀ v ∈ cleanItems items, checkParts level v = .ok ()
  | _, [], _ => by simp [cleanItems]
  | level, v :: rest, h => by
    obtain ⟨hv, hrest⟩ := List.forall_mem_cons.mp h
    rw [cleanItems]
    exact List.forall_mem_cons.mpr ⟨checkParts_clean level v hv, checkParts_cleanItems level rest hrest⟩

theorem entryFits_cleanEntries : ∀ (level : Nat) (entries : List (String × Json)), (∀ e ∈ entries, EntryFits level e) →
    ∀ e ∈ cleanEntries entries, EntryFits level e
  | _, [], _ => by simp [cleanEntries]
  | level, (k, v) :: rest, h => by
    obtain ⟨⟨hk, hv⟩, hrest⟩ := List.forall_mem_cons.mp h
    intro e he
    rw [cleanEntries] at he
    rcases mem_add he with rfl | he
    · exact ⟨Nat.le_trans (length_withoutNul_le k) hk, checkParts_clean (level + 1) v hv⟩
    · exact entryFits_cleanEntries level rest hrest e he

end

/-- A value that keeps every limit keeps them when it is cleaned. -/
theorem check_clean {v : Json} (h : v.check = .ok ()) : v.clean.check = .ok () := by
  obtain ⟨hsize, hparts⟩ := check_eq_ok_iff.mp h
  exact check_eq_ok_iff.mpr ⟨Nat.le_trans (size_clean_le v) hsize, checkParts_clean 0 v hparts⟩

theorem isObject_clean (v : Json) : v.clean.isObject = v.isObject := by
  cases v with
  | null | bool | number | string | array | object => rfl

end Json
end TaskLifecycle
