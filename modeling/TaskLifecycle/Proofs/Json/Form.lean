import TaskLifecycle.Task.Form

/-!
# TaskLifecycle.Proofs.Json.Form — a value reads from its own form

* `orNull?_ofOption`, `list?_map`, `int32?_ofInt32`, `uint32?_ofUInt32`: plain values;
* `nonNull`: a JSON value that is null counts as none; `orNull?_getD`: that is what an optional JSON field reads as;
* `required?_cons`, `optional?_cons`: a field is read from the first entry that has its name.
-/

namespace TaskLifecycle
namespace Json

variable {α : Type} {form : Json → Option α} {write : α → Json}

/-! ## Plain values -/

theorem text?_string (s : String) : text? (.string s) = some s := rfl

theorem flag?_bool (b : Bool) : flag? (.bool b) = some b := rfl

theorem items?_array (items : List Json) : items? (.array items) = some items := rfl

theorem int32?_ofInt32 (n : Int32) : int32? (ofInt32 n) = some n := by
  have hlow := n.le_toInt
  have hhigh := n.toInt_lt
  rw [int32?, ofInt32, int, whole?, if_pos (by omega), Option.map_some, Int32.ofInt_toInt]

theorem uint32?_ofUInt32 (n : UInt32) : uint32? (ofUInt32 n) = some n := by
  have hhigh := n.toNat_lt
  have hsize : UInt32.size = 4294967296 := rfl
  rw [uint32?, ofUInt32, int, whole?, if_pos (by omega), Option.map_some, Int.toNat_natCast, UInt32.ofNat_toNat]

/-- A form that null has not tells an absent value from a present one. -/
theorem orNull?_ofOption (hform : ∀ a, form (write a) = some a) (hnull : form .null = none) (o : Option α) :
    orNull? form (ofOption write o) = some o := by
  cases o with
  | none => rfl
  | some a =>
    have ha : write a ≠ .null := by
      intro hwrite
      have ha := hform a
      rw [hwrite, hnull] at ha
      cases ha
    rw [ofOption, orNull?, hform a, Option.map_some]
    exact ha

theorem list?_map (hform : ∀ a, form (write a) = some a) (as : List α) :
    list? form (.array (as.map write)) = some as := by
  have hmap : (as.map write).mapM form = some as := by
    induction as with
    | nil => rfl
    | cons a as ih => rw [List.map_cons, List.mapM_cons, hform, ih]; rfl
  exact hmap

/-! ## Any value -/

/-- The value, unless it is null. -/
def nonNull : Option Json → Option Json
  | some .null => none
  | o => o

theorem nonNull_eq_self_iff {o : Option Json} : nonNull o = o ↔ o ≠ some .null := by
  cases o with
  | none => simp [nonNull]
  | some v => cases v <;> simp [nonNull]

theorem nonNull_nonNull (o : Option Json) : nonNull (nonNull o) = nonNull o := by
  cases o with
  | none => rfl
  | some v => cases v <;> rfl

/-- Null and no value are written alike, and read as no value. -/
theorem orNull?_getD (o : Option Json) : orNull? some (o.getD .null) = some (nonNull o) := by
  cases o with
  | none => rfl
  | some v => cases v <;> rfl

/-! ## Fields -/

section

variable {names : List String} {name key : String} {v : Json} {rest : Fields}

theorem ofJson?_object (entries : Fields) : Fields.ofJson? names (.object entries) = some entries := rfl

theorem required?_cons :
    Fields.required? form name ((key, v) :: rest) = if key = name then form v else rest.required? form name := by
  by_cases h : key = name
  · rw [Fields.required?, find?, if_pos h, if_pos h, Option.bind_some]
  · rw [Fields.required?, find?, if_neg h, if_neg h]
    rfl

theorem optional?_cons :
    Fields.optional? form name ((key, v) :: rest) = if key = name then orNull? form v else rest.optional? form name := by
  by_cases h : key = name
  · rw [Fields.optional?, find?, if_pos h, if_pos h]
  · rw [Fields.optional?, find?, if_neg h, if_neg h]
    rfl

end

/-- An optional field of any value is the entry there, unless that is null. -/
theorem optional?_some (fields : Fields) (name : String) :
    fields.optional? some name = some (nonNull (find? name fields)) := by
  rw [Fields.optional?]
  cases find? name fields with
  | none => rfl
  | some v => exact orNull?_getD (some v)

/-- The steps of a reading go on with what was read. -/
theorem some_bind {β : Type} (a : α) (f : α → Option β) : (some a >>= f) = f a := rfl

/-- A reading that succeeds does so in every step. -/
theorem bind_eq_some_iff {β : Type} {x : Option α} {f : α → Option β} {b : β} :
    (x >>= f) = some b ↔ ∃ a, x = some a ∧ f a = some b :=
  Option.bind_eq_some_iff

end Json
end TaskLifecycle
