import Mathlib.Data.List.Flatten
import Mathlib.Tactic.SplitIfs
import TaskLifecycle.Json.Clean
import TaskLifecycle.Json.Printer

/-!
# TaskLifecycle.Proofs.Json.Size — the bytes of a value and of its cleaned form

* `Json.weight`: the bytes of the compact text, added up over the parts of a value; `Json.size_eq_weight`.
* `Json.entriesWeight_add_le`: an entry brings at most its own bytes, wherever it goes.
* `Json.size_clean_le`: the text of a cleaned value is not longer.
-/

namespace TaskLifecycle

/-- The UTF-8 bytes of some characters. -/
def byteCount : List Char → Nat
  | [] => 0
  | c :: cs => c.utf8Size + byteCount cs

theorem byteCount_append (cs ds : List Char) : byteCount (cs ++ ds) = byteCount cs + byteCount ds := by
  induction cs with
  | nil => exact (Nat.zero_add _).symm
  | cons c cs ih => rw [List.cons_append, byteCount, byteCount, ih, Nat.add_assoc]

theorem byteCount_le_of_sublist {cs ds : List Char} (h : cs.Sublist ds) : byteCount cs ≤ byteCount ds := by
  induction h with
  | slnil => exact Nat.le_refl _
  | cons d _ ih => exact Nat.le_trans ih (Nat.le_add_left _ _)
  | cons_cons d _ ih => exact Nat.add_le_add_left ih _

namespace Json

/-! ## Bytes of the parts -/

/-- The bytes of a string with its quotes. -/
def stringWeight (s : String) : Nat :=
  2 + byteCount (s.toList.flatMap escape)

mutual

/-- The bytes of the compact text of a value. -/
def weight : Json → Nat
  | .null => 4
  | .bool true => 4
  | .bool false => 5
  | .number n => byteCount n.chars
  | .string s => stringWeight s
  | .array items => 2 + (itemsWeight items - 1)
  | .object entries => 2 + (entriesWeight entries - 1)

/-- The bytes of items, each with a comma. -/
def itemsWeight : List Json → Nat
  | [] => 0
  | v :: rest => weight v + 1 + itemsWeight rest

/-- The bytes of entries, each with a colon and a comma. -/
def entriesWeight : List (String × Json) → Nat
  | [] => 0
  | (k, v) :: rest => stringWeight k + weight v + 2 + entriesWeight rest

end

/-! ## The writer -/

theorem utf8ByteSize_pushAll (out : String) (cs : List Char) :
    (pushAll out cs).utf8ByteSize = out.utf8ByteSize + byteCount cs := by
  induction cs generalizing out with
  | nil => rfl
  | cons c cs ih =>
    have hstep : pushAll out (c :: cs) = pushAll (out.push c) cs := rfl
    rw [hstep, ih, String.utf8ByteSize_push, byteCount]
    omega

theorem utf8ByteSize_foldl_escape (out : String) (cs : List Char) :
    (cs.foldl (fun out c => pushAll out (escape c)) out).utf8ByteSize =
      out.utf8ByteSize + byteCount (cs.flatMap escape) := by
  induction cs generalizing out with
  | nil => rfl
  | cons c cs ih =>
    rw [List.foldl_cons, ih, utf8ByteSize_pushAll, List.flatMap_cons, byteCount_append, Nat.add_assoc]

theorem utf8ByteSize_writeString (out s : String) :
    (writeString out s).utf8ByteSize = out.utf8ByteSize + stringWeight s := by
  have hquote : '"'.utf8Size = 1 := rfl
  rw [writeString, String.utf8ByteSize_push, utf8ByteSize_foldl_escape, String.utf8ByteSize_push, stringWeight, hquote]
  omega

mutual

/-- The writer adds the bytes of the value to those of the text before it. -/
theorem utf8ByteSize_writeTo : ∀ (out : String) (v : Json),
    (writeTo out v).utf8ByteSize = out.utf8ByteSize + v.weight
  | out, .null | out, .bool true | out, .bool false => by
    rw [writeTo, utf8ByteSize_pushAll]
    rfl
  | out, .number n => by
    rw [writeTo, utf8ByteSize_pushAll, weight]
  | out, .string s => by
    rw [writeTo, utf8ByteSize_writeString, weight]
  | out, .array [] | out, .object [] => by
    rw [writeTo, utf8ByteSize_pushAll]
    rfl
  | out, .array (v :: rest) => by
    have hopen : '['.utf8Size = 1 := rfl
    have hclose : ']'.utf8Size = 1 := rfl
    rw [writeTo, String.utf8ByteSize_push, utf8ByteSize_writeItems, utf8ByteSize_writeTo, String.utf8ByteSize_push,
      hopen, hclose, weight, itemsWeight]
    omega
  | out, .object ((k, v) :: rest) => by
    have hopen : '{'.utf8Size = 1 := rfl
    have hclose : '}'.utf8Size = 1 := rfl
    have hcolon : ':'.utf8Size = 1 := rfl
    rw [writeTo, String.utf8ByteSize_push, utf8ByteSize_writeEntries, utf8ByteSize_writeTo, String.utf8ByteSize_push,
      utf8ByteSize_writeString, String.utf8ByteSize_push, hopen, hclose, hcolon, weight, entriesWeight]
    omega

theorem utf8ByteSize_writeItems : ∀ (out : String) (items : List Json),
    (writeItems out items).utf8ByteSize = out.utf8ByteSize + itemsWeight items
  | out, [] => rfl
  | out, v :: rest => by
    have hcomma : ','.utf8Size = 1 := rfl
    rw [writeItems, utf8ByteSize_writeItems, utf8ByteSize_writeTo, String.utf8ByteSize_push, hcomma, itemsWeight]
    omega

theorem utf8ByteSize_writeEntries : ∀ (out : String) (entries : List (String × Json)),
    (writeEntries out entries).utf8ByteSize = out.utf8ByteSize + entriesWeight entries
  | out, [] => rfl
  | out, (k, v) :: rest => by
    have hcomma : ','.utf8Size = 1 := rfl
    have hcolon : ':'.utf8Size = 1 := rfl
    rw [writeEntries, utf8ByteSize_writeEntries, utf8ByteSize_writeTo, String.utf8ByteSize_push,
      utf8ByteSize_writeString, String.utf8ByteSize_push, hcomma, hcolon, entriesWeight]
    omega

end

/-- The bytes of the compact text are those of the parts. -/
theorem size_eq_weight (v : Json) : v.size = v.weight := by
  rw [size, compact, utf8ByteSize_writeTo]
  exact Nat.zero_add _

/-! ## Cleaning -/

theorem stringWeight_withoutNul_le (s : String) : stringWeight (withoutNul s) ≤ stringWeight s := by
  have hsub : ((s.toList.filter (· ≠ '\x00')).flatMap escape).Sublist (s.toList.flatMap escape) :=
    List.filter_sublist.flatMap _
  rw [stringWeight, stringWeight, withoutNul, String.toList_ofList]
  exact Nat.add_le_add_left (byteCount_le_of_sublist hsub) 2

/-- An entry brings at most its own bytes, wherever it goes. -/
theorem entriesWeight_add_le (key : String) (value : Json) (entries : List (String × Json)) :
    entriesWeight (add key value entries) ≤ stringWeight key + value.weight + 2 + entriesWeight entries := by
  induction entries with
  | nil => exact Nat.le_refl _
  | cons entry rest ih =>
    obtain ⟨k, v⟩ := entry
    unfold add
    split_ifs with hlt heq
    · exact Nat.le_refl _
    · -- the entry gives way to the one that has its key
      omega
    · rw [entriesWeight, entriesWeight]
      omega

mutual

theorem weight_clean_le : ∀ v : Json, v.clean.weight ≤ v.weight
  | .null | .bool _ | .number _ => Nat.le_refl _
  | .string s => stringWeight_withoutNul_le s
  | .array items => by
    have h := itemsWeight_cleanItems_le items
    rw [clean, weight, weight]
    omega
  | .object entries => by
    have h := entriesWeight_cleanEntries_le entries
    rw [clean, weight, weight]
    omega

theorem itemsWeight_cleanItems_le : ∀ items : List Json, itemsWeight (cleanItems items) ≤ itemsWeight items
  | [] => Nat.le_refl _
  | v :: rest => by
    have h := weight_clean_le v
    have hrest := itemsWeight_cleanItems_le rest
    rw [cleanItems, itemsWeight, itemsWeight]
    omega

theorem entriesWeight_cleanEntries_le : ∀ entries : List (String × Json),
    entriesWeight (cleanEntries entries) ≤ entriesWeight entries
  | [] => Nat.le_refl _
  | (k, v) :: rest => by
    have hk := stringWeight_withoutNul_le k
    have h := weight_clean_le v
    have hrest := entriesWeight_cleanEntries_le rest
    have hadd := entriesWeight_add_le (withoutNul k) v.clean (cleanEntries rest)
    rw [cleanEntries, entriesWeight]
    omega

end

/-- The compact text of a cleaned value is not longer than that of the value. -/
theorem size_clean_le (v : Json) : v.clean.size ≤ v.size := by
  rw [size_eq_weight, size_eq_weight]
  exact weight_clean_le v

end Json
end TaskLifecycle
