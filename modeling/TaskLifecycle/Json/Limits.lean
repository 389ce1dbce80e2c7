import TaskLifecycle.Json.Printer

/-!
# TaskLifecycle.Json.Limits — how large a JSON value may be

A value may take a megabyte, its parts may lie ten levels deep, and objects, arrays and strings have limits of their own.

* `Violation`: a limit that is passed, with its text;
* `checkParts`: the first violation in the value, in the order in which it is written; `check`: its size before that.
-/

namespace TaskLifecycle
namespace Json

def maxSize : Nat := 1048576

def maxDepth : Nat := 10

/-- The most entries of an object and items of an array. -/
def maxEntries : Nat := 1000

/-- The most characters of a string and of a key. -/
def maxLength : Nat := 10000

/-- A limit that is passed, and by how much. -/
inductive Violation where
  | size (bytes : Nat)
  | depth (level : Nat)
  | keys (count : Nat)
  | keyLength (chars : Nat)
  | items (count : Nat)
  | stringLength (chars : Nat)
deriving DecidableEq, Repr

namespace Violation

def most (n : Nat) : String :=
  "(max: " ++ Decimal.text n ++ ")"

def message : Violation → String
  | .size bytes => "JSON payload too large: " ++ Decimal.text bytes ++ " bytes " ++ most maxSize
  | .depth level => "JSON nesting too deep: " ++ Decimal.text level ++ " " ++ most maxDepth
  | .keys count => "too many JSON keys: " ++ Decimal.text count ++ " " ++ most maxEntries
  | .keyLength chars => "JSON key too long: " ++ Decimal.text chars ++ " chars " ++ most maxLength
  | .items count => "JSON array too large: " ++ Decimal.text count ++ " items " ++ most maxEntries
  | .stringLength chars => "JSON string too long: " ++ Decimal.text chars ++ " chars " ++ most maxLength

end Violation

mutual

/-- The parts of a value that lies at a level. -/
def checkParts (level : Nat) (v : Json) : Except Violation Unit :=
  if maxDepth < level then .error (.depth level)
  else match v with
    | .object entries =>
      if maxEntries < entries.length then .error (.keys entries.length) else checkEntries level entries
    | .array items =>
      if maxEntries < items.length then .error (.items items.length) else checkItems level items
    | .string s => if maxLength < s.length then .error (.stringLength s.length) else .ok ()
    | _ => .ok ()

/-- The items of an array at a level. -/
def checkItems (level : Nat) : List Json → Except Violation Unit
  | [] => .ok ()
  | v :: rest =>
    match checkParts (level + 1) v with
    | .error violation => .error violation
    | .ok _ => checkItems level rest

/-- The entries of an object at a level, each key before its value. -/
def checkEntries (level : Nat) : List (String × Json) → Except Violation Unit
  | [] => .ok ()
  | (k, v) :: rest =>
    if maxLength < k.length then .error (.keyLength k.length)
    else match checkParts (level + 1) v with
      | .error violation => .error violation
      | .ok _ => checkEntries level rest

end

/-- Whether a value keeps every limit; its size is looked at first. -/
def check (v : Json) : Except Violation Unit :=
  if maxSize < v.size then .error (.size v.size) else checkParts 0 v

end Json
end TaskLifecycle
