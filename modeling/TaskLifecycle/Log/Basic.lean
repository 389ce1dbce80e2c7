import TaskLifecycle.Json.Basic
import TaskLifecycle.Text.Decimal
import TaskLifecycle.Unicode.Hidden

/-!
# TaskLifecycle.Log.Basic — events of a log

* `Level`, `Event`: what is logged;
* `Event.line`: an event as a line of words; `Event.toJson`: as an object.
-/

namespace TaskLifecycle
namespace Log

inductive Level where
  | error
  | warn
  | info
  | debug
  | trace
deriving DecidableEq, Repr

namespace Level

def word : Level → String
  | .error => "ERROR"
  | .warn => "WARN"
  | .info => "INFO"
  | .debug => "DEBUG"
  | .trace => "TRACE"

/-- How much is logged at a level; nothing is logged at 0. -/
def rank : Level → Nat
  | .error => 1
  | .warn => 2
  | .info => 3
  | .debug => 4
  | .trace => 5

end Level

/-- The value of a field: text that stands in quotes, text that stands as it is, a number or a truth value. -/
inductive Value where
  | quoted (s : String)
  | plain (s : String)
  | number (n : Nat)
  | flag (b : Bool)
deriving DecidableEq, Repr

/-- Something that is logged.  A field may be without a value. -/
structure Event where
  level : Level
  target : String
  message : String
  fields : List (String × Option Value)
deriving DecidableEq, Repr

/-! ## Lines -/

def hexDigits (n : Nat) : List Char :=
  Nat.toDigits 16 n

/-- A character in quotes: the marks themselves and what does not show are escaped. -/
def escape (c : Char) : List Char :=
  if c = '"' then ['\\', '"']
  else if c = '\\' then ['\\', '\\']
  else if c = '\n' then ['\\', 'n']
  else if c = '\r' then ['\\', 'r']
  else if c = '\t' then ['\\', 't']
  else if c.toNat = 0 then ['\\', '0']
  else if Unicode.isHidden c then ['\\', 'u', '\x7b'] ++ hexDigits c.toNat ++ ['\x7d']
  else [c]

def quote (s : String) : String :=
  String.ofList ('"' :: s.toList.flatMap escape ++ ['"'])

namespace Value

def text : Value → String
  | .quoted s => quote s
  | .plain s => s
  | .number n => Decimal.text n
  | .flag b => if b then "true" else "false"

def toJson : Value → Json
  | .quoted s => .string s
  | .plain s => .string s
  | .number n => .int n
  | .flag b => .bool b

end Value

namespace Event

/-- The fields that have values. -/
def given (e : Event) : List (String × Value) :=
  e.fields.filterMap fun (name, value) => value.map (name, ·)

/-- The event as a line. -/
def line (e : Event) : String :=
  String.intercalate " " ([e.level.word, e.target ++ ":", e.message] ++
    e.given.map fun (name, value) => name ++ "=" ++ value.text)

/-- The event as an object. -/
def toJson (e : Event) : Json :=
  .object [
    ("fields", .ofEntries (("message", .string e.message) :: e.given.map fun (name, value) => (name, value.toJson))),
    ("level", .string e.level.word),
    ("target", .string e.target)]

end Event
end Log
end TaskLifecycle
