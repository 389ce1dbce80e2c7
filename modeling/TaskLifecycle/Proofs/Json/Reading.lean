import TaskLifecycle.Json.Reader
import TaskLifecycle.Proofs.Json.Normal

/-!
# TaskLifecycle.Proofs.Json.Reading — values that have been read

The reader puts the entries of every object in order, and of two with one key the later stays.

* `Json.sorted_ofEntries`: an object of any entries has its keys in order.
* `Json.sorted_read`: so whatever is read is sorted.
-/

namespace TaskLifecycle
namespace Json

variable {v : Json} {cs rest : List Char}

/-! ## Entries in the order of reading -/

theorem sortedItems_of_forall {items : List Json} (h : ∀ v ∈ items, v.Sorted) : SortedItems items := by
  induction items with
  | nil => trivial
  | cons v rest ih =>
    obtain ⟨hv, hrest⟩ := List.forall_mem_cons.mp h
    exact ⟨hv, ih hrest⟩

/-- An object of entries in any order is sorted if their values are. -/
theorem sorted_ofEntries {pairs : List (String × Json)} (h : ∀ e ∈ pairs, e.2.Sorted) : (ofEntries pairs).Sorted := by
  refine ⟨ascending_ofPairs pairs, ?_⟩
  induction pairs with
  | nil => trivial
  | cons entry rest ih =>
    obtain ⟨hentry, hrest⟩ := List.forall_mem_cons.mp h
    exact sortedEntries_add hentry (ih hrest)

/-! ## Values -/

theorem sorted_readNumber {negative : Bool} (h : readNumber negative cs = some (v, rest)) : v.Sorted := by
  have hdouble {sign : Bool} {s : Significand} {exponent : Int} {behind : List Char}
      (h : (double? sign s exponent).map (·, behind) = some (v, rest)) : v.Sorted := by
    obtain ⟨w, hw, heq⟩ := Option.map_eq_some_iff.mp h
    cases heq
    obtain ⟨_, -, rfl⟩ := Option.map_eq_some_iff.mp hw
    trivial
  unfold readNumber at h
  split at h
  · cases h
  · dsimp only at h
    split at h
    · split at h
      · cases h
      · obtain ⟨e, -, h⟩ := Option.bind_eq_some_iff.mp h
        exact hdouble h
    · split at h
      · obtain ⟨e, -, h⟩ := Option.bind_eq_some_iff.mp h
        exact hdouble h
      · split at h
        · cases h
          trivial
        · split at h
          · cases h
            trivial
          · exact hdouble h

mutual

theorem sorted_readValue : ∀ {fuel : Nat} {cs : List Char} {v : Json} {rest : List Char},
    readValue fuel cs = some (v, rest) → v.Sorted
  | 0, _, _, _, h => by simp [readValue] at h
  | fuel + 1, cs, v, rest, h => by
    unfold readValue at h
    split at h
    case h_1 => cases h
    case h_2 | h_3 | h_4 | h_5 =>
      obtain ⟨_, -, heq⟩ := Option.map_eq_some_iff.mp h
      cases heq
      trivial
    case h_6 | h_9 => exact sorted_readNumber h
    case h_7 =>
      split at h
      · cases h
        trivial
      · exact sorted_readItems (by simp) h
    case h_8 =>
      split at h
      · cases h
        exact ⟨List.Pairwise.nil, trivial⟩
      · exact sorted_readEntries (by simp) h

theorem sorted_readItems : ∀ {fuel : Nat} {done : List Json} {cs : List Char} {v : Json} {rest : List Char},
    (∀ w ∈ done, w.Sorted) → readItems fuel done cs = some (v, rest) → v.Sorted
  | 0, _, _, _, _, _, h => by simp [readItems] at h
  | fuel + 1, done, cs, v, rest, hdone, h => by
    obtain ⟨⟨item, _⟩, hitem, h⟩ := Option.bind_eq_some_iff.mp h
    have hmore : ∀ w ∈ item :: done, w.Sorted := List.forall_mem_cons.mpr ⟨sorted_readValue hitem, hdone⟩
    dsimp only at h
    split at h
    · exact sorted_readItems hmore h
    · cases h
      exact sortedItems_of_forall fun w hw => hmore w (List.mem_reverse.mp hw)
    · cases h

theorem sorted_readEntries : ∀ {fuel : Nat} {done : List (String × Json)} {cs : List Char} {v : Json} {rest : List Char},
    (∀ e ∈ done, e.2.Sorted) → readEntries fuel done cs = some (v, rest) → v.Sorted
  | 0, _, _, _, _, _, h => by simp [readEntries] at h
  | fuel + 1, done, cs, v, rest, hdone, h => by
    unfold readEntries at h
    split at h
    · obtain ⟨⟨key, _⟩, -, h⟩ := Option.bind_eq_some_iff.mp h
      dsimp only at h
      split at h
      · obtain ⟨⟨value, _⟩, hvalue, h⟩ := Option.bind_eq_some_iff.mp h
        have hmore : ∀ e ∈ (key, value) :: done, e.2.Sorted :=
          List.forall_mem_cons.mpr ⟨sorted_readValue hvalue, hdone⟩
        dsimp only at h
        split at h
        · exact sorted_readEntries hmore h
        · cases h
          exact sorted_ofEntries fun e he => hmore e (List.mem_reverse.mp he)
        · cases h
      · cases h
    · cases h

end

/-- Whatever is read has the keys of all its objects in order. -/
theorem sorted_read {s : String} (h : read s = some v) : v.Sorted := by
  obtain ⟨⟨w, rest⟩, hread, h⟩ := Option.bind_eq_some_iff.mp h
  dsimp only at h
  split at h
  · cases h
    exact sorted_readValue hread
  · cases h

end Json
end TaskLifecycle
