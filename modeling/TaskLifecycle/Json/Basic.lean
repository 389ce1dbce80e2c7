import TaskLifecycle.Number.Double

/-!
# TaskLifecycle.Json.Basic — JSON values

The keys of an object stand in the order of their code points, each once: `Json.Sorted`.

* `add`: an entry put where it belongs, unless its key is there; `ofPairs`: an object of which the last entry of each key
  stays.
-/

namespace TaskLifecycle

/-- A number keeps its kind: `1` is whole, `1.0` is not. -/
inductive Json.Number where
  | whole (value : Int)
  | double (value : Double)
deriving DecidableEq, Repr

inductive Json where
  | null
  | bool (value : Bool)
  | number (value : Json.Number)
  | string (value : String)
  | array (items : List Json)
  | object (entries : List (String × Json))
deriving Inhabited

namespace Json

def int (n : Int) : Json :=
  .number (.whole n)

def isObject : Json → Bool
  | .object _ => true
  | _ => false

/-! ## Entries -/

/-- Entries with one more, in the order of the keys; an entry that has the key already stays. -/
def add (key : String) (value : Json) : List (String × Json) → List (String × Json)
  | [] => [(key, value)]
  | (k, v) :: rest =>
    if key < k then (key, value) :: (k, v) :: rest
    else if key = k then (k, v) :: rest
    else (k, v) :: add key value rest

/-- Entries in the order of their keys; of two with one key the later stays. -/
def ofPairs (pairs : List (String × Json)) : List (String × Json) :=
  pairs.foldr (fun entry rest => add entry.1 entry.2 rest) []

/-- The value under a key. -/
def find? (key : String) : List (String × Json) → Option Json
  | [] => none
  | (k, v) :: rest => if k = key then some v else find? key rest

/-- The value under a key of an object. -/
def get? (key : String) : Json → Option Json
  | .object entries => find? key entries
  | _ => none

/-- An object of the given entries. -/
def ofEntries (pairs : List (String × Json)) : Json :=
  .object (ofPairs pairs)

/-- The value, or `null` where there is none. -/
def ofOption {α : Type} (f : α → Json) : Option α → Json
  | none => .null
  | some a => f a

/-! ## Sorted values -/

mutual

/-- Every object in the value has its keys in strictly ascending order. -/
def Sorted : Json → Prop
  | .array items => SortedItems items
  | .object entries => (entries.map Prod.fst).Pairwise (· < ·) ∧ SortedEntries entries
  | _ => True

def SortedItems : List Json → Prop
  | [] => True
  | v :: rest => Sorted v ∧ SortedItems rest

def SortedEntries : List (String × Json) → Prop
  | [] => True
  | (_, v) :: rest => Sorted v ∧ SortedEntries rest

end

end Json
end TaskLifecycle
