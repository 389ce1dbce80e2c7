import TaskLifecycle.Config.Basic
import TaskLifecycle.Log.Basic
import TaskLifecycle.Log.Pattern.Reader
import TaskLifecycle.Number.Extended

/-!
# TaskLifecycle.Log.Filter — which events are logged

A filter is a list of directives with commas between them.  A directive is a level, a target, or both with `=` between
them; a target stands for all targets that begin with it, and the longest one decides.  A field in brackets and braces
restricts a directive to events that have it; what is said of spans, or of the values of fields, concerns no events.

* `Filter.read`: from text; `Filter.passes`: whether an event is logged;
* `Filter.choice`: the text of the filter, from the environment and the configuration.
-/

namespace TaskLifecycle
namespace Log

/-- What a filter says of the events of a target that have some fields: the rank up to which they are logged. -/
structure Directive where
  target : Option (List Char)
  fields : List String
  rank : Nat
deriving DecidableEq, Repr

/-- The directives for events, and whether there are any at all. -/
structure Filter where
  directives : List Directive
deriving DecidableEq, Repr

namespace Filter

/-! ## Reading -/

/-- The rank that a level has, by its number or by its name in any case. -/
def rank? (cs : List Char) : Option Nat :=
  match Decimal.readNatural (UInt64.size - 1) cs with
  | .ok n => if n ≤ 5 then some n else none
  | .error _ =>
    match String.ofList (cs.map Char.toLower) with
    | "off" => some 0
    | "" | "error" => some 1
    | "warn" => some 2
    | "info" => some 3
    | "debug" => some 4
    | "trace" => some 5
    | _ => none

/-- The rank behind `=`; all is logged where nothing follows. -/
def rankBehind? (cs : List Char) : Option Nat :=
  if cs.isEmpty then some 5 else rank? cs

/-- A character that a directive may begin with. -/
def startsName (c : Char) : Bool :=
  c == '-' || c == ':' || c == '_' || Unicode.isAlphanumeric c

/-- A part of a directive: none for one that concerns spans alone. -/
abbrev Reading := Option (Option Directive)

/-! ### Places in a text -/

/-- A text by its places: a character is at the first of as many places as it has bytes. -/
def places (cs : List Char) : List (Option Char) :=
  cs.flatMap fun c => some c :: List.replicate (c.utf8Size - 1) none

/-- The characters at some places; none where the first or the last of them is cut apart. -/
def textAt (ps : List (Option Char)) : Option (List Char) :=
  let cs := ps.filterMap id
  if places cs = ps then some cs else none

/-- What is seen at a place, and what is taken from it. -/
abbrev Place := Option Char × Option Char

/-- The places before the first at which a mark is seen, and those from it on. -/
def upTo (marks : List Char) (ps : List Place) : List Place × List Place :=
  let isMark (place : Place) : Bool := match place.1 with
    | some c => marks.contains c
    | none => false
  (ps.takeWhile (!isMark ·), ps.dropWhile (!isMark ·))

/-- The text that is taken from some places. -/
def taken (ps : List Place) : Option (List Char) :=
  textAt (ps.map Prod.snd)

/-! ### Directives -/

/-- Whether the value of a field may be asked for: a number or a pattern. -/
def isValue (cs : List Char) : Bool :=
  (Extended.read? cs).isSome || ((Pattern.read? cs).map Pattern.isUsable).getD false

/-- What is asked of a field: that an event has it, or, of spans alone, that it has a value. -/
def readField (cs : List Char) : Option (Option String) :=
  let name := cs.takeWhile (· ≠ '=')
  if name.length = cs.length then some (some (String.ofList name))
  else if isValue ((cs.drop (name.length + 1)).takeWhile (· ≠ '=')) then some none
  else none

/-- What follows a target or a bracket that has been closed: nothing, or `=` and a level, which reaches into the blanks
behind. -/
def readEnd (make : Nat → Option Directive) (behind : List (Option Char)) : List Place → Reading
  | [] => some (make 5)
  | (some '=', _) :: rest =>
    (textAt (rest.map Prod.snd ++ behind)).bind fun level => (rankBehind? level).map make
  | _ => none

/-- What stands in brackets, after the opening one: the name of a span, a field in braces, or both. -/
def readSpan (target : Option (List Char)) (behind : List (Option Char)) (ps : List Place) : Reading :=
  let (span, rest) := upTo [']', '\x7b'] ps
  (taken span).bind fun span =>
    match rest with
    | (some ']', _) :: rest => readEnd (fun _ => none) behind rest
    | (some '\x7b', _) :: rest =>
      let (field, rest) := upTo ['\x7d'] rest
      match rest with
      | _ :: (some ']', _) :: rest =>
        (taken field).bind fun field =>
          if field.isEmpty then none
          else (readField field).bind fun
            | some name =>
              readEnd (fun rank => if span.isEmpty then some ⟨target, [name], rank⟩ else none) behind rest
            | none => readEnd (fun _ => none) behind rest
      | _ => none
    | _ => none

/-- A directive.  Its marks are seen in the text without blanks at its ends; its parts are taken from the text with them,
from the places at which the marks were seen, so that blanks in front shift what is taken. -/
def readDirective (cs : List Char) : Reading :=
  let bare := Text.strip Text.isBlank cs
  let seen := places bare
  let ps := seen.zip (places cs)
  let behind := (places cs).drop seen.length
  match bare.head? with
  | none => none
  | some '[' => readSpan none behind (ps.drop 1)
  | some c =>
    if ¬ startsName c then none
    else
      let (target, rest) := upTo ['=', '['] ps
      match rest with
      | [] =>
        match rank? cs with
        | some rank => some (some ⟨none, [], rank⟩)
        | none => some (some ⟨some cs, [], 5⟩)
      | (some '[', _) :: rest => (taken target).bind fun target => readSpan (some target) behind rest
      | _ => (taken target).bind fun target => readEnd (fun rank => some ⟨some target, [], rank⟩) behind rest

/-- The parts of a text between commas. -/
def splitCommas (cs : List Char) : List (List Char) :=
  cs.foldr (fun c parts =>
    if c = ',' then [] :: parts
    else match parts with
      | [] => [[c]]
      | part :: rest => (c :: part) :: rest) [[]]

/-- The filter that a text writes; what is no directive is passed over, and errors are logged where none is left. -/
def read (s : String) : Filter :=
  let found := ((splitCommas s.toList).filter (fun part => !part.isEmpty)).filterMap readDirective
  if found.isEmpty then ⟨[⟨none, [], 1⟩]⟩ else ⟨found.filterMap id⟩

/-! ## Events -/

/-- Whether a directive is about an event. -/
def concerns (d : Directive) (e : Event) : Bool :=
  (match d.target with
    | none => true
    | some target => target.isPrefixOf e.target.toList) &&
    d.fields.all fun name => name == "message" || e.fields.any fun field => field.1 == name

/-- Whether a directive is more to the point than another: a target before none, a longer one before a shorter, more
fields before fewer, of as many those with the greater names. -/
def sharper (d d' : Directive) : Bool :=
  let length (t : Option (List Char)) : Nat := match t with
    | none => 0
    | some target => target.length + 1
  if length d.target ≠ length d'.target then decide (length d'.target < length d.target)
  else if d.fields.length ≠ d'.fields.length then decide (d'.fields.length < d.fields.length)
  else decide (d'.fields < d.fields)

/-- The directive that decides about an event: the sharpest about it, of equal ones the last. -/
def decisive (f : Filter) (e : Event) : Option Directive :=
  (f.directives.filter (concerns · e)).foldl (fun best d =>
    match best with
    | none => some d
    | some best => if sharper best d then some best else some d) none

/-- Whether an event is logged. -/
def passes (f : Filter) (e : Event) : Bool :=
  match f.decisive e with
  | none => false
  | some d => decide (e.level.rank ≤ d.rank)

/-! ## Choice of a filter -/

/-- The name of the surroundings that a program runs in. -/
def environment (env : Environment) : String :=
  ((env.lookup "TASKFORGE_ENV").or (env.lookup "APP_ENV")).getD "development"

/-- The level that is logged in an environment if nothing else is asked for. -/
def levelIn : String → String
  | "production" => "info"
  | "test" => "warn"
  | _ => "debug"

/-- The text of the filter: from its variable, else from the configuration, else the level for the environment. -/
def choice (config : LoggingConfig) (env : Environment) : String :=
  ((env.lookup "RUST_LOG").or config.level).getD (levelIn (environment env))

end Filter
end Log
end TaskLifecycle
