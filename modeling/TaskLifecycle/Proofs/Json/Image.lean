import TaskLifecycle.Proofs.Bytes
import TaskLifecycle.Proofs.Json.Walk

/-!
# TaskLifecycle.Proofs.Json.Image — where the parts of a value are after it has been cleaned

Keys of an object that differ in U+0000 only become one key, and one of their values stays.

* `Json.find?_ofPairs`, `Json.find?_cleanEntries`: the value under a key is that of the last entry with this key, in a cleaned
  object that of the last entry whose key becomes it.
* `Json.Prevails`: a key is the greatest, byte by byte, of those that become the same; in an object with its keys in order
  it is the last of them (`Json.find?_cleanEntries_eq_some_iff`).
* `Json.below?`: the value on a path; `Json.Leads`: a path all of whose keys prevail; `Json.below?_clean_eq_some_iff`: the
  values on the paths of a cleaned value are the cleaned values on such paths, and no others.
* `image_of_sorted`: all of it, for every value whose objects have their keys in order.
-/

namespace TaskLifecycle
namespace Json

variable {key k : String} {value v w : Json} {e : String × Json} {entries : List (String × Json)}

/-! ## Entries by their keys -/

theorem find?_cons : find? key ((k, v) :: entries) = if k = key then some v else find? key entries := rfl

theorem find?_eq_none (h : ∀ e ∈ entries, e.1 ≠ key) : find? key entries = none := by
  induction entries with
  | nil => rfl
  | cons entry rest ih =>
    obtain ⟨hfirst, hrest⟩ := List.forall_mem_cons.mp h
    rw [find?_cons, if_neg hfirst, ih hrest]

theorem mem_keys_iff : key ∈ entries.map Prod.fst ↔ ∃ v, find? key entries = some v := by
  induction entries with
  | nil => simp [find?]
  | cons entry rest ih =>
    obtain ⟨k, u⟩ := entry
    rw [List.map_cons, List.mem_cons, ih, find?_cons]
    by_cases hk : k = key
    · simp [hk]
    · simp [hk, Ne.symm hk]

/-- An entry that is put where it belongs is found under its key, unless there was one before. -/
theorem find?_add (h : Ascending entries) :
    find? k (add key value entries) = (find? k entries).or (if key = k then some value else none) := by
  induction entries with
  | nil => rw [add, find?_cons]; rfl
  | cons entry rest ih =>
    obtain ⟨first, u⟩ := entry
    obtain ⟨hfirst, hrest⟩ := ascending_cons.mp h
    rw [add]
    by_cases hlt : key < first
    · rw [if_pos hlt, find?_cons]
      by_cases hk : key = k
      · -- all the other keys are greater
        have hnone : find? k ((first, u) :: rest) = none := by
          rw [← hk]
          exact find?_eq_none (List.forall_mem_cons.mpr ⟨ne_of_gt hlt, fun e he => ne_of_gt (lt_trans hlt (hfirst e he))⟩)
        rw [hnone, Option.none_or, if_pos hk]
      · rw [if_neg hk, if_neg hk, Option.or_none]
    · rw [if_neg hlt]
      by_cases heq : key = first
      · rw [if_pos heq, find?_cons, heq]
        by_cases hk : first = k
        · rw [if_pos hk, Option.some_or]
        · rw [if_neg hk, if_neg hk, Option.or_none]
      · rw [if_neg heq, find?_cons, find?_cons, ih hrest]
        by_cases hk : first = k
        · rw [if_pos hk, if_pos hk, Option.some_or]
        · rw [if_neg hk, if_neg hk]

/-- Of the entries with one key the last one stays. -/
theorem find?_ofPairs (key : String) (pairs : List (String × Json)) :
    find? key (ofPairs pairs) = (pairs.filter fun e => e.1 = key).getLast?.map Prod.snd := by
  induction pairs with
  | nil => rfl
  | cons entry rest ih =>
    obtain ⟨k, v⟩ := entry
    rw [ofPairs, List.foldr_cons, ← ofPairs, find?_add (ascending_ofPairs rest), ih]
    by_cases hk : k = key
    · rw [List.filter_cons_of_pos (by simpa using hk), List.getLast?_cons, if_pos hk]
      cases (rest.filter fun e => e.1 = key).getLast? <;> rfl
    · rw [List.filter_cons_of_neg (by simpa using hk), if_neg hk, Option.or_none]

/-! ## Keys that become one -/

/-- The value under a key of a cleaned object is that of the last entry whose key becomes it. -/
theorem find?_cleanEntries (key : String) (entries : List (String × Json)) :
    find? key (cleanEntries entries) =
      (entries.filter fun e => withoutNul e.1 = key).getLast?.map fun e => e.2.clean := by
  rw [cleanEntries_eq_ofPairs, find?_ofPairs, List.filter_map, List.getLast?_map, Option.map_map]
  rfl

/-- The keys of a cleaned object are those that the keys become. -/
theorem mem_keys_cleanEntries_iff :
    key ∈ (cleanEntries entries).map Prod.fst ↔ key ∈ entries.map fun e => withoutNul e.1 := by
  rw [mem_keys_iff, find?_cleanEntries, ← Option.isSome_iff_exists, Option.isSome_map, List.getLast?_isSome, ne_eq,
    List.filter_eq_nil_iff]
  simp

/-- A key is the greatest, in the order of bytes, of the keys of some entries that become the same. -/
def Prevails (entries : List (String × Json)) (key : String) : Prop :=
  ∀ e ∈ entries, withoutNul e.1 = withoutNul key → Text.bytes e.1 ≤ Text.bytes key

theorem prevails_iff : Prevails entries key ↔ ∀ e ∈ entries, withoutNul e.1 = withoutNul key → e.1 ≤ key := by
  refine forall_congr' fun e => forall_congr' fun _ => forall_congr' fun _ => ?_
  rw [← List.not_lt, Text.bytes_lt_iff, not_lt]

/-- The last of some entries in order is the one with the greatest key. -/
theorem getLast?_eq_some_iff (h : Ascending entries) :
    entries.getLast? = some e ↔ e ∈ entries ∧ ∀ e' ∈ entries, e'.1 ≤ e.1 := by
  have hlast {before : List (String × Json)} {last : String × Json} (hsplit : entries = before ++ [last]) :
      ∀ e' ∈ before, e'.1 < last.1 := by
    rw [hsplit, Ascending, List.map_append, List.pairwise_append] at h
    exact fun e' he' => h.2.2 _ (List.mem_map_of_mem he') _ List.mem_cons_self
  rw [List.getLast?_eq_some_iff]
  constructor
  · rintro ⟨before, hsplit⟩
    rw [hsplit]
    refine ⟨List.mem_append_right _ List.mem_cons_self, fun e' he' => ?_⟩
    rcases List.mem_append.mp he' with he' | he'
    · exact le_of_lt (hlast hsplit e' he')
    · rw [List.mem_singleton.mp he']
  · rintro ⟨he, hgreatest⟩
    obtain ⟨before, last, hsplit⟩ := (List.eq_nil_or_concat entries).resolve_left (List.ne_nil_of_mem he)
    refine ⟨before, ?_⟩
    rw [List.concat_eq_append] at hsplit
    rw [hsplit] at he hgreatest
    rcases List.mem_append.mp he with he | he
    · -- an entry before the last one is not the greatest
      have hle := hgreatest last (List.mem_append_right _ List.mem_cons_self)
      exact absurd (hlast hsplit e he) (not_lt.mpr hle)
    · rw [hsplit, List.mem_singleton.mp he]

/-- The value under a key of a cleaned object is that of the key that prevails among those that become it. -/
theorem find?_cleanEntries_eq_some_iff (h : Ascending entries) :
    find? key (cleanEntries entries) = some w ↔
      ∃ e ∈ entries, withoutNul e.1 = key ∧ Prevails entries e.1 ∧ w = e.2.clean := by
  have hsame : Ascending (entries.filter fun e => withoutNul e.1 = key) := h.sublist (List.filter_sublist.map _)
  rw [find?_cleanEntries, Option.map_eq_some_iff]
  refine exists_congr fun e => ?_
  rw [getLast?_eq_some_iff hsame, prevails_iff]
  constructor
  · rintro ⟨⟨he, hgreatest⟩, rfl⟩
    obtain ⟨he, hkey⟩ := List.mem_filter.mp he
    have hkey : withoutNul e.1 = key := by simpa using hkey
    refine ⟨he, hkey, fun e' he' hsame => hgreatest e' (List.mem_filter.mpr ⟨he', ?_⟩), rfl⟩
    simpa using hsame.trans hkey
  · rintro ⟨he, hkey, hgreatest, rfl⟩
    refine ⟨⟨List.mem_filter.mpr ⟨he, by simpa using hkey⟩, fun e' he' => ?_⟩, rfl⟩
    obtain ⟨he', hkey'⟩ := List.mem_filter.mp he'
    have hkey' : withoutNul e'.1 = key := by simpa using hkey'
    exact hgreatest e' he' (hkey'.trans hkey.symm)

/-! ## Paths -/

/-- The way from a value to one right below it: to an item of an array, or to the value under a key of an object. -/
inductive Branch where
  | item (index : Nat)
  | key (key : String)
deriving DecidableEq

/-- The value on a path. -/
def below? : Json → List Branch → Option Json
  | v, [] => some v
  | .array items, .item i :: path => items[i]?.bind (below? · path)
  | .object entries, .key k :: path => (find? k entries).bind (below? · path)
  | _, _ :: _ => none

/-- The branch that a branch becomes. -/
def Branch.clean : Branch → Branch
  | .item i => .item i
  | .key k => .key (withoutNul k)

/-- The path leads from `v` to `w`, and all its keys prevail. -/
inductive Leads : Json → List Branch → Json → Prop
  | here (v : Json) : Leads v [] v
  | item {items : List Json} {i : Nat} {v w : Json} {path : List Branch} (there : items[i]? = some v)
    (rest : Leads v path w) : Leads (.array items) (.item i :: path) w
  | key {entries : List (String × Json)} {e : String × Json} {w : Json} {path : List Branch} (there : e ∈ entries)
    (prevails : Prevails entries e.1) (rest : Leads e.2 path w) : Leads (.object entries) (.key e.1 :: path) w

variable {path : List Branch}

/-- A part at the end of a path on which all keys prevail is found in the cleaned value, and is cleaned there. -/
theorem Leads.below?_clean (h : Leads v path w) (hv : v.Sorted) :
    v.clean.below? (path.map Branch.clean) = some w.clean := by
  induction h with
  | here v => rfl
  | @item items i v w path there rest ih =>
    have hsorted : v.Sorted := sorted_of_mem_items hv (List.mem_of_getElem? there)
    have himage : (cleanItems items)[i]? = some v.clean := by
      rw [cleanItems_eq_map, List.getElem?_map, there, Option.map_some]
    show (cleanItems items)[i]?.bind _ = _
    rw [himage, Option.bind_some, ih hsorted]
  | @key entries e w path there prevails rest ih =>
    have himage : find? (withoutNul e.1) (cleanEntries entries) = some e.2.clean :=
      (find?_cleanEntries_eq_some_iff hv.1).mpr ⟨e, there, rfl, prevails, rfl⟩
    show (find? (withoutNul e.1) (cleanEntries entries)).bind _ = _
    rw [himage, Option.bind_some, ih (sorted_of_mem_entries hv.2 there)]

/-- Whatever is found in a cleaned value is the image of such a part. -/
theorem exists_leads_of_below?_clean (hv : v.Sorted) (h : v.clean.below? path = some w) :
    ∃ origin part, Leads v origin part ∧ path = origin.map Branch.clean ∧ w = part.clean := by
  induction path generalizing v with
  | nil =>
    cases h
    exact ⟨[], v, .here v, rfl, rfl⟩
  | cons branch path ih =>
    cases v with
    | null | bool | number | string => cases branch <;> cases h
    | array items =>
      cases branch with
      | key k => cases h
      | item i =>
        obtain ⟨image, himage, h⟩ := Option.bind_eq_some_iff.mp h
        rw [cleanItems_eq_map, List.getElem?_map, Option.map_eq_some_iff] at himage
        obtain ⟨v, there, rfl⟩ := himage
        obtain ⟨origin, part, hleads, rfl, rfl⟩ := ih (sorted_of_mem_items hv (List.mem_of_getElem? there)) h
        exact ⟨.item i :: origin, part, .item there hleads, rfl, rfl⟩
    | object entries =>
      cases branch with
      | item i => cases h
      | key k =>
        obtain ⟨image, himage, h⟩ := Option.bind_eq_some_iff.mp h
        obtain ⟨e, there, rfl, prevails, rfl⟩ := (find?_cleanEntries_eq_some_iff hv.1).mp himage
        obtain ⟨origin, part, hleads, rfl, rfl⟩ := ih (sorted_of_mem_entries hv.2 there) h
        exact ⟨.key e.1 :: origin, part, .key there prevails hleads, rfl, rfl⟩

/-- The values on the paths of a cleaned value are the cleaned values on the paths on which all keys prevail. -/
theorem below?_clean_eq_some_iff (hv : v.Sorted) :
    v.clean.below? path = some w ↔ ∃ origin part, Leads v origin part ∧ path = origin.map Branch.clean ∧ w = part.clean := by
  constructor
  · exact exists_leads_of_below?_clean hv
  · rintro ⟨origin, part, hleads, rfl, rfl⟩
    exact hleads.below?_clean hv

end Json

/-- Whatever the value is, cleaned it is a value with its keys in order, holds U+0000 in no string and in no key, and stays
as it is when it is cleaned again; a value that does not hold the character is its own cleaned form.  Everywhere in the
value, the image of an array has the images of the items in their order, and the image of an object has the keys that its
keys become, each with the image of the value under the greatest key that becomes it.  What is found on the paths of the
cleaned value are the images of the parts that lie below such greatest keys only, at the same places. -/
theorem image_of_sorted (v : Json) (h : v.Sorted) :
    v.clean.Sorted ∧ (∀ s ∈ v.clean.texts, NulFree s) ∧ ((∀ s ∈ v.texts, NulFree s) → v.clean = v) ∧
    v.clean.clean = v.clean ∧
    (∀ depth items, v.IsPart depth (.array items) → (Json.array items).clean = .array (items.map Json.clean)) ∧
    (∀ depth entries, v.IsPart depth (.object entries) →
      ∃ images, (Json.object entries).clean = .object images ∧
        (∀ key, key ∈ images.map Prod.fst ↔ key ∈ entries.map fun e => withoutNul e.1) ∧
        ∀ key w, Json.find? key images = some w ↔
          ∃ e ∈ entries, withoutNul e.1 = key ∧
            (∀ e' ∈ entries, withoutNul e'.1 = key → Text.bytes e'.1 ≤ Text.bytes e.1) ∧ w = e.2.clean) ∧
    ∀ path w, v.clean.below? path = some w ↔
      ∃ origin part, v.Leads origin part ∧ path = origin.map Json.Branch.clean ∧ w = part.clean := by
  refine ⟨Json.sorted_clean v, Json.nulFree_clean v, Json.clean_eq_self v h, Json.clean_clean v, ?_, ?_, ?_⟩
  · intro depth items _
    rw [Json.clean, Json.cleanItems_eq_map]
  · intro depth entries part
    refine ⟨Json.cleanEntries entries, rfl, fun key => Json.mem_keys_cleanEntries_iff, fun key w => ?_⟩
    rw [Json.find?_cleanEntries_eq_some_iff (part.sorted h).1]
    refine exists_congr fun e => and_congr_right fun _ => and_congr_right fun hkey => ?_
    rw [Json.Prevails, hkey]
  · intro path w
    exact Json.below?_clean_eq_some_iff h

/-- The object under the greatest of three keys that become one, itself with two such keys. -/
def innerObject : Json :=
  .object [("\x00b", .null), ("b", .bool true)]

/-- An object with three keys that become one. -/
def collidingObject : Json :=
  .object [("\x00a", .bool false), ("a", .null), ("a\x00", .array [.string "x\x00", innerObject])]

/-- Of the three values that under the greatest key stays, and of the two in it that under the greater one. -/
theorem image_of_collidingObject :
    collidingObject.Sorted ∧ collidingObject.clean = .object [("a", .array [.string "x", .object [("b", .bool true)]])] ∧
      (∀ s ∈ collidingObject.clean.texts, NulFree s) ∧ collidingObject.clean.clean = collidingObject.clean ∧
      innerObject.clean = .object [("b", .bool true)] ∧ Json.find? "b" [("b", .bool true)] = some (.bool true) ∧
      collidingObject.clean.below? [.key "a", .item 1, .key "b"] = some (.bool true) := by
  have hsorted : collidingObject.Sorted :=
    ⟨by decide +kernel, trivial, trivial, ⟨trivial, ⟨by decide +kernel, trivial, trivial, trivial⟩, trivial⟩, trivial⟩
  obtain ⟨-, hfree, -, hfixed, -, hobjects, hpaths⟩ := image_of_sorted collidingObject hsorted
  have hinner : collidingObject.IsPart 2 innerObject :=
    .entry (.tail _ (.tail _ (.head _))) (.item (.tail _ (.head _)) (.self _))
  obtain ⟨images, himages, -, hfind⟩ := hobjects 2 _ hinner
  cases himages
  have hvalue := (hfind "b" (.bool true)).mpr ⟨_, .tail _ (.head _), by decide +kernel, by decide +kernel, rfl⟩
  have hleads : collidingObject.Leads [.key "a\x00", .item 1, .key "b"] (.bool true) :=
    .key (.tail _ (.tail _ (.head _))) (by unfold Json.Prevails; decide +kernel)
      (.item rfl (.key (.tail _ (.head _)) (by unfold Json.Prevails; decide +kernel) (.here _)))
  have hbelow := (hpaths [.key "a", .item 1, .key "b"] (.bool true)).mpr ⟨_, _, hleads, by decide +kernel, rfl⟩
  exact ⟨hsorted, rfl, hfree, hfixed, rfl, hvalue, hbelow⟩

end TaskLifecycle
