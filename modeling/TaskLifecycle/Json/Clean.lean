import TaskLifecycle.Json.Basic

/-!
# TaskLifecycle.Json.Clean — values without the character U+0000

* `withoutNul`: a text without the character;
* `clean`: a value in whose strings and keys the character does not occur.  Where two keys become equal, the value of the
  greater one stays.
-/

namespace TaskLifecycle

/-- A text without the character U+0000. -/
def withoutNul (s : String) : String :=
  String.ofList (s.toList.filter (· ≠ '\x00'))

namespace Json

mutual

/-- The value without the character U+0000 in its strings and keys. -/
def clean : Json → Json
  | .string s => .string (withoutNul s)
  | .array items => .array (cleanItems items)
  | .object entries => .object (cleanEntries entries)
  | v => v

def cleanItems : List Json → List Json
  | [] => []
  | v :: rest => clean v :: cleanItems rest

/-- Later entries have the greater keys, so an entry gives way to one of them. -/
def cleanEntries : List (String × Json) → List (String × Json)
  | [] => []
  | (k, v) :: rest => add (withoutNul k) (clean v) (cleanEntries rest)

end

end Json
end TaskLifecycle
