import Mathlib.Tactic.SplitIfs
import TaskLifecycle.Json.Clean

/-!
# TaskLifecycle.Proofs.Clean — cleaned values hold no U+0000

* `NulFree`: a text in which the character U+0000 does not occur.
* `Json.texts`: the strings and keys of a value, at every depth.
* `Json.nulFree_clean`: those of a cleaned value are free of the character.
-/

namespace TaskLifecycle

/-- The character U+0000 does not occur in a text. -/
def NulFree (s : String) : Prop :=
  '\x00' ∉ s.toList

instance (s : String) : Decidable (NulFree s) := by
  unfold NulFree; infer_instance

theorem nulFree_withoutNul (s : String) : NulFree (withoutNul s) := by
  unfold NulFree withoutNul
  rw [String.toList_ofList, List.mem_filter]
  simp

namespace Json

mutual

/-- The strings and keys of a value. -/
def texts : Json → List String
  | .string s => [s]
  | .array items => itemTexts items
  | .object entries => entryTexts entries
  | .null | .bool _ | .number _ => []

def itemTexts : List Json → List String
  | [] => []
  | v :: rest => texts v ++ itemTexts rest

def entryTexts : List (String × Json) → List String
  | [] => []
  | (k, v) :: rest => k :: (texts v ++ entryTexts rest)

end

theorem mem_entryTexts_cons {s k : String} {v : Json} {rest : List (String × Json)} :
    s ∈ entryTexts ((k, v) :: rest) ↔ s = k ∨ s ∈ v.texts ∨ s ∈ entryTexts rest := by
  rw [entryTexts, List.mem_cons, List.mem_append]

/-- An entry brings no other texts than its own. -/
theorem mem_entryTexts_add {key s : String} {value : Json} {entries : List (String × Json)}
    (h : s ∈ entryTexts (add key value entries)) : s = key ∨ s ∈ value.texts ∨ s ∈ entryTexts entries := by
  induction entries with
  | nil =>
    rw [add] at h
    exact mem_entryTexts_cons.mp h
  | cons entry rest ih =>
    obtain ⟨k, v⟩ := entry
    unfold add at h
    split_ifs at h with hlt heq
    · exact mem_entryTexts_cons.mp h
    · exact .inr (.inr h)
    · -- the entry goes somewhere behind the first
      rw [mem_entryTexts_cons] at h ⊢
      rcases h with h | h | h
      · exact .inr (.inr (.inl h))
      · exact .inr (.inr (.inr (.inl h)))
      · rcases ih h with h | h | h
        · exact .inl h
        · exact .inr (.inl h)
        · exact .inr (.inr (.inr (.inr h)))

mutual

/-- The strings and keys of a cleaned value are free of the character. -/
theorem nulFree_clean : ∀ (v : Json), ∀ s ∈ v.clean.texts, NulFree s
  | .null, _, h | .bool _, _, h | .number _, _, h => by cases h
  | .string s, _, h => by
    rw [clean, texts, List.mem_singleton] at h
    rw [h]
    exact nulFree_withoutNul s
  | .array items, s, h => by
    rw [clean, texts] at h
    exact nulFree_cleanItems items s h
  | .object entries, s, h => by
    rw [clean, texts] at h
    exact nulFree_cleanEntries entries s h

theorem nulFree_cleanItems : ∀ (items : List Json), ∀ s ∈ itemTexts (cleanItems items), NulFree s
  | [], _, h => by cases h
  | v :: rest, s, h => by
    rw [cleanItems, itemTexts, List.mem_append] at h
    rcases h with h | h
    · exact nulFree_clean v s h
    · exact nulFree_cleanItems rest s h

theorem nulFree_cleanEntries : ∀ (entries : List (String × Json)), ∀ s ∈ entryTexts (cleanEntries entries), NulFree s
  | [], _, h => by cases h
  | (k, v) :: rest, s, h => by
    rw [cleanEntries] at h
    rcases mem_entryTexts_add h with h | h | h
    · rw [h]
      exact nulFree_withoutNul k
    · exact nulFree_clean v s h
    · exact nulFree_cleanEntries rest s h

end

theorem cleanItems_eq_map (items : List Json) : cleanItems items = items.map clean := by
  induction items with
  | nil => rfl
  | cons v rest ih => rw [cleanItems, List.map_cons, ih]

end Json
end TaskLifecycle
