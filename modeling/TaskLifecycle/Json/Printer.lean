import TaskLifecycle.Json.Basic
import TaskLifecycle.Number.Shortest

/-!
# TaskLifecycle.Json.Printer — the compact text of a JSON value

No blanks; strings with the short escapes where there is one, `\u00xx` for the other control characters, and all other
characters as they are.

* `writeTo`: the text of a value behind another text; `compact`: the text; `size`: its bytes.
-/

namespace TaskLifecycle
namespace Json

def hexDigit (n : Nat) : Char :=
  if n < 10 then Char.ofNat (n + 48) else Char.ofNat (n + 87)

/-- A character inside a string. -/
def escape (c : Char) : List Char :=
  if c = '"' then ['\\', '"']
  else if c = '\\' then ['\\', '\\']
  else if c = '\n' then ['\\', 'n']
  else if c = '\r' then ['\\', 'r']
  else if c = '\t' then ['\\', 't']
  else if c.toNat = 8 then ['\\', 'b']
  else if c.toNat = 12 then ['\\', 'f']
  else if c.toNat < 32 then ['\\', 'u', '0', '0', hexDigit (c.toNat / 16), hexDigit (c.toNat % 16)]
  else [c]

/-- A text with further characters behind it. -/
def pushAll (out : String) (cs : List Char) : String :=
  cs.foldl String.push out

def writeString (out : String) (s : String) : String :=
  (s.toList.foldl (fun out c => pushAll out (escape c)) (out.push '"')).push '"'

def Number.chars : Number → List Char
  | .whole n => Decimal.signed n
  | .double x => x.scientific

mutual

/-- The text of a value behind `out`. -/
def writeTo (out : String) : Json → String
  | .null => pushAll out ['n', 'u', 'l', 'l']
  | .bool true => pushAll out ['t', 'r', 'u', 'e']
  | .bool false => pushAll out ['f', 'a', 'l', 's', 'e']
  | .number n => pushAll out n.chars
  | .string s => writeString out s
  | .array [] => pushAll out ['[', ']']
  | .array (v :: rest) => (writeItems (writeTo (out.push '[') v) rest).push ']'
  | .object [] => pushAll out ['{', '}']
  | .object ((k, v) :: rest) =>
    (writeEntries (writeTo ((writeString (out.push '{') k).push ':') v) rest).push '}'

/-- Further items, a comma before each. -/
def writeItems (out : String) : List Json → String
  | [] => out
  | v :: rest => writeItems (writeTo (out.push ',') v) rest

/-- Further entries, a comma before each. -/
def writeEntries (out : String) : List (String × Json) → String
  | [] => out
  | (k, v) :: rest => writeEntries (writeTo ((writeString (out.push ',') k).push ':') v) rest

end

/-- The compact text of a value. -/
def compact (v : Json) : String :=
  writeTo "" v

/-- The bytes of the compact text. -/
def size (v : Json) : Nat :=
  v.compact.utf8ByteSize

end Json
end TaskLifecycle
