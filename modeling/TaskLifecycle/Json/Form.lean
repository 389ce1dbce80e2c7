import TaskLifecycle.Json.Basic

/-!
# TaskLifecycle.Json.Form — JSON forms of records and words

A record is an object with its fields as entries, or an array of all its fields in their order.  Entries that are no
fields are passed over.

* `Fields.ofJson?`: the fields of a record; `required?`, `optional?`: one of them;
* `text?`, `flag?`, `whole?`, `items?`, `word?`: plain values.
-/

namespace TaskLifecycle
namespace Json

/-! ## Plain values -/

def text? : Json → Option String
  | .string s => some s
  | _ => none

def flag? : Json → Option Bool
  | .bool b => some b
  | _ => none

/-- A whole number from `low` to `high`. -/
def whole? (low high : Int) : Json → Option Int
  | .number (.whole n) => if low ≤ n ∧ n ≤ high then some n else none
  | _ => none

def items? : Json → Option (List Json)
  | .array items => some items
  | _ => none

/-- A list of values of one form. -/
def list? {α : Type} (form : Json → Option α) (v : Json) : Option (List α) :=
  (items? v).bind fun items => items.mapM form

/-- One of several words, as a string or as the only key of an object with no more to say. -/
def word? {α : Type} (named : String → Option α) : Json → Option α
  | .string s => named s
  | .object [(s, .null)] => named s
  | _ => none

/-- A value of a form, `null` for none. -/
def orNull? {α : Type} (form : Json → Option α) : Json → Option (Option α)
  | .null => some none
  | v => (form v).map some

/-! ## Records -/

/-- The fields of a record that are there. -/
abbrev Fields := List (String × Json)

/-- The fields of a record, of which an array holds all that `names` lists, in that order. -/
def Fields.ofJson? (names : List String) : Json → Option Fields
  | .object entries => some entries
  | .array items => if items.length = names.length then some (names.zip items) else none
  | _ => none

/-- The fields of a record whose fields may be left out; an array may then leave out the last ones. -/
def Fields.ofPartialJson? (names : List String) : Json → Option Fields
  | .object entries => some entries
  | .array items => if items.length ≤ names.length then some (names.zip items) else none
  | _ => none

namespace Fields

/-- A field that has to be there. -/
def required? {α : Type} (form : Json → Option α) (name : String) (fields : Fields) : Option α :=
  (find? name fields).bind form

/-- A field that is none where it is left out or `null`. -/
def optional? {α : Type} (form : Json → Option α) (name : String) (fields : Fields) : Option (Option α) :=
  match find? name fields with
  | none => some none
  | some v => orNull? form v

/-- A field that has a value of its own where it is left out. -/
def defaulted? {α : Type} (form : Json → Option α) (name : String) (value : α) (fields : Fields) : Option α :=
  match find? name fields with
  | none => some value
  | some v => form v

end Fields
end Json
end TaskLifecycle
