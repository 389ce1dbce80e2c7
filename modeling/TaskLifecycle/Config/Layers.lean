import TaskLifecycle.Config.Basic
import TaskLifecycle.Setting
import TaskLifecycle.Toml.Document

/-!
# TaskLifecycle.Config.Layers — configuration from layers

The built-in values lie below those of a file, these below those of the environment, and the address of the database has
a variable of its own on top.

* `Setting.natural?`, `Setting.truth?`, `Setting.string?`: a setting as a value of a field;
* `Config.ofSetting?`: a configuration from a tree; `Config.toSetting`: the tree of one;
* `Config.load`: the configuration of a file and an environment.
-/

namespace TaskLifecycle
namespace Setting

/-! ## Values of fields -/

/-- A whole number of 64 bits.  Text may be a number or a word for yes or no. -/
def natural? : Setting → Option Nat
  | whole n => if 0 ≤ n then some n.toNat else none
  | flag b => some (if b then 1 else 0)
  | real x => some (x.toNatural (UInt64.size - 1))
  | text s =>
    match lower s with
    | "true" | "on" | "yes" => some 1
    | "false" | "off" | "no" => some 0
    | _ => (Decimal.readNatural (UInt64.size - 1) s.toList).toOption
  | _ => none

def word? (s : Setting) : Option UInt32 :=
  (natural? s).bind fun n => if n < UInt32.size then some (UInt32.ofNat n) else none

def longWord? (s : Setting) : Option UInt64 :=
  (natural? s).map UInt64.ofNat

/-- A truth value.  A number is true unless it is zero. -/
def truth? : Setting → Option Bool
  | flag b => some b
  | whole n => some (n ≠ 0)
  | real x => some (!x.isZero)
  | text s =>
    match lower s with
    | "1" | "true" | "on" | "yes" => some true
    | "0" | "false" | "off" | "no" => some false
    | _ => none
  | _ => none

/-- A text; numbers and truth values are written out. -/
def string? : Setting → Option String
  | text s => some s
  | flag b => some (if b then "true" else "false")
  | whole n => some (String.ofList (Decimal.signed n))
  | real x => some (String.ofList x.plain)
  | _ => none

/-- A text or none. -/
def optionalString? : Setting → Option (Option String)
  | nil => some none
  | s => (string? s).map some

/-! ## Records -/

/-- The fields of a record that are there: entries of a table, or the items of a list in the order of `names`. -/
def fields? (names : List String) : Setting → Option (List (String × Setting))
  | table entries => some entries
  | list items => some (names.zip items)
  | _ => none

/-- A field that has a value of its own where it is left out. -/
def field? {α : Type} (form : Setting → Option α) (name : String) (value : α) (fields : List (String × Setting)) :
    Option α :=
  match find? name fields with
  | none => some value
  | some s => form s

end Setting

open Setting (fields? field?)

def DatabaseConfig.ofSetting? (s : Setting) : Option DatabaseConfig := do
  let fields ← fields? ["url", "max_connections", "acquire_timeout_seconds"] s
  let url ← field? Setting.string? "url" DatabaseConfig.default.url fields
  let maxConnections ← field? Setting.word? "max_connections" DatabaseConfig.default.maxConnections fields
  let acquireTimeout ← field? Setting.longWord? "acquire_timeout_seconds" DatabaseConfig.default.acquireTimeout fields
  return ⟨url, maxConnections, acquireTimeout⟩

def LoggingConfig.ofSetting? (s : Setting) : Option LoggingConfig := do
  let fields ← fields? ["level", "json"] s
  let level ← field? Setting.optionalString? "level" LoggingConfig.default.level fields
  let json ← field? Setting.truth? "json" LoggingConfig.default.json fields
  return ⟨level, json⟩

def Paging.ofSetting? (s : Setting) : Option Paging := do
  let fields ← fields? ["default_page_size", "max_page_size"] s
  let defaultSize ← field? Setting.word? "default_page_size" Paging.default.defaultSize fields
  let maxSize ← field? Setting.word? "max_page_size" Paging.default.maxSize fields
  return ⟨defaultSize, maxSize⟩

namespace Config

/-- The configuration that a tree describes. -/
def ofSetting? (s : Setting) : Option Config := do
  let fields ← fields? ["database", "logging", "pagination"] s
  let database ← field? DatabaseConfig.ofSetting? "database" DatabaseConfig.default fields
  let logging ← field? LoggingConfig.ofSetting? "logging" LoggingConfig.default fields
  let pagination ← field? Paging.ofSetting? "pagination" Paging.default fields
  return ⟨database, logging, pagination⟩

/-- The tree of a configuration. -/
def toSetting (c : Config) : Setting :=
  .table [
    ("database", .table [
      ("url", .text c.database.url),
      ("max_connections", .whole c.database.maxConnections.toNat),
      ("acquire_timeout_seconds", .whole c.database.acquireTimeout.toNat)]),
    ("logging", .table [
      ("level", (c.logging.level.map Setting.text).getD .nil),
      ("json", .flag c.logging.json)]),
    ("pagination", .table [
      ("default_page_size", .whole c.pagination.defaultSize.toNat),
      ("max_page_size", .whole c.pagination.maxSize.toNat)])]

/-! ## Environment -/

/-- What the names of the variables for settings begin with. -/
def variableStart : List Char :=
  "taskforge__".toList

/-- A name with points for pairs of underscores. -/
def dotted : List Char → List Char
  | '_' :: '_' :: rest => '.' :: dotted rest
  | c :: rest => c :: dotted rest
  | [] => []

/-- The place that a variable sets, if it sets one. -/
def placeOf (name : String) : Option String :=
  let cs := name.toList.map lowerChar
  if variableStart.isPrefixOf cs then some (String.ofList (dotted (cs.drop variableStart.length))) else none

/-- The value of a variable: a truth value, a number or text. -/
def valueOf (s : String) : Setting :=
  let cs := s.toList
  match lower s with
  | "true" => .flag true
  | "false" => .flag false
  | _ =>
    match Decimal.readInteger (Nat.pow 2 63 - 1) cs with
    | .ok n => .whole n
    | .error _ =>
      match Extended.read? cs with
      | some x => .real x
      | none => .text s

/-- The settings of an environment. -/
def ofEnvironment (env : Environment) : List (String × Setting) :=
  env.filterMap fun (name, value) => (placeOf name).map (·, valueOf value)

/-- The variable that has the address of the database. -/
def databaseVariable : String := "DATABASE_URL"

/-- The variable that has the path of the file. -/
def pathVariable : String := "TASKFORGE_CONFIG_PATH"

/-! ## Loading -/

/-- The file that a configuration is loaded from. -/
inductive File where
  | none
  | missing (path : String)
  | unreadable
  | text (content : String)

/-- The settings of a file. -/
def File.settings : File → Except Fault (List (String × Setting))
  | .none => .ok []
  | .missing path => .error (.missingFile path)
  | .unreadable => .error .unreadable
  | .text content =>
    match Toml.read content with
    | some settings => .ok settings
    | Option.none => .error .unreadable

/-- All layers in one tree. -/
def layered (file : List (String × Setting)) (env : Environment) : Setting :=
  let s := ((Setting.table []).layer default.toSetting.entries).layer file
  let s := s.layer (ofEnvironment env)
  match env.lookup databaseVariable with
  | some url => s.layer [("database.url", .text url)]
  | Option.none => s

/-- The configuration of a file and an environment. -/
def load (file : File) (env : Environment) : Except Fault Config :=
  match file.settings with
  | .error fault => .error fault
  | .ok settings =>
    match ofSetting? (layered settings env) with
    | Option.none => .error .mismatch
    | some config =>
      match config.check with
      | .error fault => .error fault
      | .ok _ => .ok config

end Config
end TaskLifecycle
