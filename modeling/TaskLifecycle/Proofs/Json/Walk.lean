import TaskLifecycle.Proofs.Admission
import TaskLifecycle.Proofs.Json.Normal

/-!
# TaskLifecycle.Proofs.Json.Walk — which values pass the check of JSON, and what is said of the others

* `Json.IsPart`: a value inside another, with its depth there; `Json.Limited`: the limits that a value has to keep whatever
  is inside it.
* `Json.walk`: everything that is measured of a value, in the order of reading, without an end at the first fault;
  `Json.mem_walk_iff`: these are the measures of its parts.
* `Json.checkParts_eq_firstOver`: the check of the parts finds the first measure over its limit.
* `payload_within_limits`: so a payload passes exactly if it and all its parts keep their limits, and the fault of any other
  is its size, or else the first violation in the walk.
-/

namespace TaskLifecycle
namespace Json

/-! ## Parts -/

/-- `w` lies inside `v`, `depth` objects and arrays below it. -/
inductive IsPart : Json → Nat → Json → Prop
  | self (v : Json) : IsPart v 0 v
  | item {items : List Json} {v w : Json} {depth : Nat} (mem : v ∈ items) (part : IsPart v depth w) :
    IsPart (.array items) (depth + 1) w
  | entry {entries : List (String × Json)} {e : String × Json} {w : Json} {depth : Nat} (mem : e ∈ entries)
    (part : IsPart e.2 depth w) : IsPart (.object entries) (depth + 1) w

/-- The limits of a value by itself: entries and keys of an object, items of an array, characters of a string. -/
def Limited : Json → Prop
  | .object entries => entries.length ≤ 1000 ∧ ∀ e ∈ entries, e.1.length ≤ 10000
  | .array items => items.length ≤ 1000
  | .string s => s.length ≤ 10000
  | .null | .bool _ | .number _ => True

/-- What holds of every value, if it holds of arrays and objects where it holds of everything in them. -/
@[elab_as_elim]
theorem parts_induction {P : Json → Prop} (null : P .null) (bool : ∀ b, P (.bool b)) (number : ∀ n, P (.number n))
    (string : ∀ s, P (.string s)) (array : ∀ items, (∀ v ∈ items, P v) → P (.array items))
    (object : ∀ entries, (∀ e ∈ entries, P e.2) → P (.object entries)) (v : Json) : P v := by
  refine Json.rec (motive_1 := P) (motive_2 := fun items => ∀ v ∈ items, P v)
    (motive_3 := fun entries => ∀ e ∈ entries, P e.2) (motive_4 := fun e => P e.2) null bool number string array object
    ?noItems ?moreItems ?noEntries ?moreEntries ?entry v
  case noItems | noEntries => simp
  case moreItems | moreEntries =>
    intro first rest hfirst hrest
    exact List.forall_mem_cons.mpr ⟨hfirst, hrest⟩
  case entry =>
    intro k v hv
    exact hv

/-! ## The walk -/

/-- Whether a measure is over the limit of its kind. -/
def Violation.isOver : Violation → Bool
  | .size bytes => 1048576 < bytes
  | .depth level => 10 < level
  | .keys count | .items count => 1000 < count
  | .keyLength chars | .stringLength chars => 10000 < chars

mutual

/-- Everything that is measured of a value at a level, in the order of reading: the level, then how many entries or items
there are or how long the string is, then one part after the other, each key before its value. -/
def walk (level : Nat) : Json → List Violation
  | .object entries => .depth level :: .keys entries.length :: walkEntries level entries
  | .array items => .depth level :: .items items.length :: walkItems level items
  | .string s => [.depth level, .stringLength s.length]
  | .null | .bool _ | .number _ => [.depth level]

def walkItems (level : Nat) : List Json → List Violation
  | [] => []
  | v :: rest => walk (level + 1) v ++ walkItems level rest

def walkEntries (level : Nat) : List (String × Json) → List Violation
  | [] => []
  | (k, v) :: rest => .keyLength k.length :: (walk (level + 1) v ++ walkEntries level rest)

end

/-- The measures of a value by itself. -/
def measures (level : Nat) : Json → List Violation
  | .object entries => .depth level :: .keys entries.length :: entries.map fun e => .keyLength e.1.length
  | .array items => [.depth level, .items items.length]
  | .string s => [.depth level, .stringLength s.length]
  | .null | .bool _ | .number _ => [.depth level]

variable {level : Nat} {x : Violation}

theorem mem_walk_array_iff {items : List Json} :
    x ∈ walk level (.array items) ↔ x ∈ measures level (.array items) ∨ ∃ v ∈ items, x ∈ walk (level + 1) v := by
  have hitems : x ∈ walkItems level items ↔ ∃ v ∈ items, x ∈ walk (level + 1) v := by
    induction items with
    | nil => simp [walkItems]
    | cons v rest ih => rw [walkItems, List.mem_append, ih, List.exists_mem_cons_iff]
  rw [walk, measures, ← hitems, ← List.mem_append]
  rfl

theorem mem_walk_object_iff {entries : List (String × Json)} :
    x ∈ walk level (.object entries) ↔
      x ∈ measures level (.object entries) ∨ ∃ e ∈ entries, x ∈ walk (level + 1) e.2 := by
  have hentries : x ∈ walkEntries level entries ↔
      (x ∈ entries.map fun e => .keyLength e.1.length) ∨ ∃ e ∈ entries, x ∈ walk (level + 1) e.2 := by
    induction entries with
    | nil => simp [walkEntries]
    | cons e rest ih =>
      rw [walkEntries, List.map_cons, List.mem_cons, List.mem_cons, List.mem_append, ih, List.exists_mem_cons_iff, or_assoc]
      exact or_congr_right or_left_comm
  rw [walk, measures, List.mem_cons, List.mem_cons, List.mem_cons, List.mem_cons, hentries, or_assoc, or_assoc]

/-- A part of an array is the array or a part of an item. -/
theorem exists_part_array_iff {items : List Json} {Q : Nat → Json → Prop} :
    (∃ depth w, IsPart (.array items) depth w ∧ Q depth w) ↔
      Q 0 (.array items) ∨ ∃ v ∈ items, ∃ depth w, IsPart v depth w ∧ Q (depth + 1) w := by
  constructor
  · rintro ⟨depth, w, part, h⟩
    cases part with
    | self => exact .inl h
    | item mem part => exact .inr ⟨_, mem, _, _, part, h⟩
  · rintro (h | ⟨v, mem, depth, w, part, h⟩)
    · exact ⟨0, _, .self _, h⟩
    · exact ⟨depth + 1, w, .item mem part, h⟩

/-- A part of an object is the object or a part of a value in it. -/
theorem exists_part_object_iff {entries : List (String × Json)} {Q : Nat → Json → Prop} :
    (∃ depth w, IsPart (.object entries) depth w ∧ Q depth w) ↔
      Q 0 (.object entries) ∨ ∃ e ∈ entries, ∃ depth w, IsPart e.2 depth w ∧ Q (depth + 1) w := by
  constructor
  · rintro ⟨depth, w, part, h⟩
    cases part with
    | self => exact .inl h
    | entry mem part => exact .inr ⟨_, mem, _, _, part, h⟩
  · rintro (h | ⟨e, mem, depth, w, part, h⟩)
    · exact ⟨0, _, .self _, h⟩
    · exact ⟨depth + 1, w, .entry mem part, h⟩

/-- The walk measures the parts of a value, each at its own level, and nothing else. -/
theorem mem_walk_iff {v : Json} : x ∈ walk level v ↔ ∃ depth w, IsPart v depth w ∧ x ∈ measures (level + depth) w := by
  induction v using parts_induction generalizing level with
  | null | bool | number | string =>
    constructor
    · intro h
      exact ⟨0, _, .self _, h⟩
    · rintro ⟨depth, w, part, h⟩
      cases part
      exact h
  | array items ih =>
    rw [mem_walk_array_iff, exists_part_array_iff]
    refine or_congr_right (exists_congr fun v => and_congr_right fun hv => ?_)
    simp only [ih v hv, Nat.add_right_comm level, Nat.add_assoc]
  | object entries ih =>
    rw [mem_walk_object_iff, exists_part_object_iff]
    refine or_congr_right (exists_congr fun e => and_congr_right fun he => ?_)
    simp only [ih e he, Nat.add_right_comm level, Nat.add_assoc]

/-! ## The check -/

/-- The first measure that is over its limit, as a fault. -/
def firstOver (xs : List Violation) : Except Violation Unit :=
  match xs.find? Violation.isOver with
  | none => .ok ()
  | some x => .error x

/-- A guard before the other measures. -/
theorem firstOver_cons {p : Prop} [Decidable p] (h : x.isOver = decide p) (xs : List Violation) :
    firstOver (x :: xs) = if p then .error x else firstOver xs := by
  unfold firstOver
  rw [List.find?_cons, h]
  by_cases hp : p <;> simp [hp]

theorem firstOver_eq_error_iff {xs : List Violation} : firstOver xs = .error x ↔ xs.find? Violation.isOver = some x := by
  unfold firstOver
  cases xs.find? Violation.isOver <;> simp

theorem firstOver_eq_ok_iff {xs : List Violation} : firstOver xs = .ok () ↔ ∀ x ∈ xs, x.isOver = false := by
  unfold firstOver
  cases h : xs.find? Violation.isOver with
  | none => simpa using h
  | some x =>
    have hx := List.find?_some h
    have hmem := List.mem_of_find?_eq_some h
    simp only [reduceCtorEq, false_iff]
    exact fun hall => Bool.false_ne_true ((hall x hmem).symm.trans hx)

theorem firstOver_append_of_ok {xs : List Violation} (h : firstOver xs = .ok ()) (ys : List Violation) :
    firstOver (xs ++ ys) = firstOver ys := by
  have hnone : xs.find? Violation.isOver = none := by
    rw [List.find?_eq_none]
    intro x hx
    rw [firstOver_eq_ok_iff.mp h x hx]
    exact Bool.false_ne_true
  rw [firstOver, List.find?_append, hnone, Option.none_or, firstOver]

theorem firstOver_append_of_error {xs : List Violation} (h : firstOver xs = .error x) (ys : List Violation) :
    firstOver (xs ++ ys) = .error x := by
  rw [firstOver_eq_error_iff, List.find?_append, firstOver_eq_error_iff.mp h, Option.some_or]

mutual

/-- The check of the parts ends at the first measure that is over its limit. -/
theorem checkParts_eq_firstOver : ∀ (level : Nat) (v : Json), checkParts level v = firstOver (walk level v)
  | level, .null | level, .bool _ | level, .number _ => by
    rw [walk, firstOver_cons (p := maxDepth < level) rfl]
    rfl
  | level, .string s => by
    rw [walk, firstOver_cons (p := maxDepth < level) rfl, firstOver_cons (p := maxLength < s.length) rfl, checkParts]
    rfl
  | level, .array items => by
    rw [walk, firstOver_cons (p := maxDepth < level) rfl, firstOver_cons (p := maxEntries < items.length) rfl, checkParts,
      checkItems_eq_firstOver level items]
  | level, .object entries => by
    rw [walk, firstOver_cons (p := maxDepth < level) rfl, firstOver_cons (p := maxEntries < entries.length) rfl,
      checkParts, checkEntries_eq_firstOver level entries]

theorem checkItems_eq_firstOver : ∀ (level : Nat) (items : List Json),
    checkItems level items = firstOver (walkItems level items)
  | _, [] => rfl
  | level, v :: rest => by
    have hv := checkParts_eq_firstOver (level + 1) v
    rw [walkItems, checkItems]
    cases h : checkParts (level + 1) v with
    | error x => rw [firstOver_append_of_error (hv.symm.trans h)]
    | ok => rw [firstOver_append_of_ok (hv.symm.trans h), checkItems_eq_firstOver level rest]

theorem checkEntries_eq_firstOver : ∀ (level : Nat) (entries : List (String × Json)),
    checkEntries level entries = firstOver (walkEntries level entries)
  | _, [] => rfl
  | level, (k, v) :: rest => by
    have hv := checkParts_eq_firstOver (level + 1) v
    rw [walkEntries, checkEntries, firstOver_cons (p := maxLength < k.length) rfl]
    congr 1
    cases h : checkParts (level + 1) v with
    | error x => rw [firstOver_append_of_error (hv.symm.trans h)]
    | ok => rw [firstOver_append_of_ok (hv.symm.trans h), checkEntries_eq_firstOver level rest]

end

/-- The measures of a value by itself keep their limits exactly if it does, and does not lie too deep. -/
theorem measures_within_iff {w : Json} :
    (∀ x ∈ measures level w, x.isOver = false) ↔ level ≤ 10 ∧ w.Limited := by
  cases w with
  | null | bool | number | string | array => simp [measures, Violation.isOver, Limited]
  | object entries =>
    rw [measures, List.forall_mem_cons, List.forall_mem_cons, List.forall_mem_map]
    simp [Violation.isOver, Limited]

/-- The parts of a value pass their check exactly if none lies too deep and each keeps its limits. -/
theorem checkParts_eq_ok_iff {v : Json} :
    checkParts 0 v = .ok () ↔ ∀ depth w, IsPart v depth w → depth ≤ 10 ∧ w.Limited := by
  rw [checkParts_eq_firstOver, firstOver_eq_ok_iff]
  constructor
  · intro h depth w part
    refine measures_within_iff.mp fun x hx => h x (mem_walk_iff.mpr ⟨depth, w, part, ?_⟩)
    rwa [Nat.zero_add]
  · intro h x hx
    obtain ⟨depth, w, part, hmem⟩ := mem_walk_iff.mp hx
    rw [Nat.zero_add] at hmem
    exact measures_within_iff.mpr (h depth w part) x hmem

/-- The size is looked at before the parts. -/
theorem check_eq_error_iff {v : Json} : v.check = .error x ↔
    maxSize < v.size ∧ x = .size v.size ∨ v.size ≤ maxSize ∧ (walk 0 v).find? Violation.isOver = some x := by
  by_cases hsize : maxSize < v.size
  · rw [check, if_pos hsize]
    simp [hsize, eq_comm]
  · rw [check, if_neg hsize, checkParts_eq_firstOver, firstOver_eq_error_iff]
    simp [hsize, Nat.le_of_not_lt hsize]

/-! ## The order of the keys -/

theorem sorted_of_mem_items {items : List Json} {v : Json} (h : SortedItems items) (hv : v ∈ items) : v.Sorted := by
  induction items with
  | nil => cases hv
  | cons first rest ih =>
    rcases List.mem_cons.mp hv with rfl | hv
    · exact h.1
    · exact ih h.2 hv

theorem sorted_of_mem_entries {entries : List (String × Json)} {e : String × Json} (h : SortedEntries entries)
    (he : e ∈ entries) : e.2.Sorted := by
  induction entries with
  | nil => cases he
  | cons first rest ih =>
    rcases List.mem_cons.mp he with rfl | he
    · exact h.1
    · exact ih h.2 he

/-- The parts of a sorted value are sorted. -/
theorem IsPart.sorted {v w : Json} {depth : Nat} (part : IsPart v depth w) (h : v.Sorted) : w.Sorted := by
  induction part with
  | self v => exact h
  | item mem part ih => exact ih (sorted_of_mem_items h mem)
  | entry mem part ih => exact ih (sorted_of_mem_entries h.2 mem)

end Json

theorem Input.payload_eq_error_iff {field : String} {v : Json} {fault : Input.Fault} :
    Input.payload field v = .error fault ↔ ∃ x, v.check = .error x ∧ fault = .payload field x := by
  unfold Input.payload
  cases v.check with
  | ok => simp
  | error x => simp [eq_comm]

/-- A payload passes exactly if its compact text has at most 1048576 bytes and all its parts lie at most ten levels deep
and keep their own limits.  Otherwise the fault is its size, if that is too large, and else the first measure of the walk
that is over its limit; the walk visits the entries of every object in the order of their keys. -/
theorem payload_within_limits (field : String) (v : Json) :
    (Input.payload field v = .ok () ↔
      v.size ≤ 1048576 ∧ ∀ depth w, v.IsPart depth w → depth ≤ 10 ∧ w.Limited) ∧
    (∀ fault, Input.payload field v = .error fault ↔
      ∃ x, (1048576 < v.size ∧ x = .size v.size ∨
          v.size ≤ 1048576 ∧ (Json.walk 0 v).find? Json.Violation.isOver = some x) ∧
        fault = .payload field x) ∧
    (v.Sorted → ∀ depth entries, v.IsPart depth (.object entries) → (entries.map Prod.fst).Pairwise (· < ·)) := by
  refine ⟨?_, ?_, fun h depth entries part => (part.sorted h).1⟩
  · rw [Input.payload_eq_ok_iff, Json.check_eq_ok_iff, Json.checkParts_eq_ok_iff]
    rfl
  · intro fault
    rw [Input.payload_eq_error_iff]
    exact exists_congr fun x => and_congr_left fun _ => Json.check_eq_error_iff

/-- A value within some arrays. -/
def nested : Nat → Json
  | 0 => .null
  | n + 1 => .array [nested n]

/-- Of two values of an object, the first lies as deep as may be and the second one level deeper. -/
theorem payload_within_limits_nested :
    (∀ depth w, (Json.object [("a", nested 9)]).IsPart depth w → depth ≤ 10 ∧ w.Limited) ∧
      (Json.object [("a", nested 9), ("b", nested 10)]).Sorted ∧
      Input.payload "order" (.object [("a", nested 9), ("b", nested 10)]) = .error (.payload "order" (.depth 11)) ∧
      ["a", "b"].Pairwise (· < ·) := by
  have hsorted : (Json.object [("a", nested 9), ("b", nested 10)]).Sorted := by
    have hkeys : "a" < "b" := by decide
    simpa [nested, Json.Sorted, Json.SortedEntries, Json.SortedItems] using hkeys
  obtain ⟨hok, -, -⟩ := payload_within_limits "order" (.object [("a", nested 9)])
  obtain ⟨-, herror, hkeys⟩ := payload_within_limits "order" (.object [("a", nested 9), ("b", nested 10)])
  refine ⟨(hok.mp rfl).2, hsorted, ?_, hkeys hsorted 0 _ (.self _)⟩
  exact (herror _).mpr ⟨.depth 11, .inr ⟨by decide, rfl⟩, rfl⟩

end TaskLifecycle
