import TaskLifecycle.Number.Extended

/-!
# TaskLifecycle.Setting — trees of settings

A setting is a value or a table of settings.  Layers of settings are laid over each other: tables are joined key by key,
anything else is replaced.  Keys are compared in lower case.

* `Setting`: the trees; `Setting.merge`: one over another;
* `Place`: where in a tree a value belongs; `Place.read`: from text; `Setting.assign`: a value put there.
-/

namespace TaskLifecycle

inductive Setting where
  | nil
  | flag (value : Bool)
  | whole (value : Int)
  | real (value : Extended)
  | text (value : String)
  | list (items : List Setting)
  | table (entries : List (String × Setting))
deriving Inhabited

/-- A letter in lower case.  Of all other characters only the Kelvin sign has an ASCII letter as its lower case. -/
def lowerChar (c : Char) : Char :=
  if c.toNat = 0x212A then 'k' else c.toLower

def lower (s : String) : String :=
  String.ofList (s.toList.map lowerChar)

namespace Setting

/-! ## Tables and lists -/

/-- The value under a key. -/
def find? (key : String) : List (String × Setting) → Option Setting
  | [] => none
  | (k, v) :: rest => if k = key then some v else find? key rest

/-- Entries with one under a key, in the place of the one that was there. -/
def put (key : String) (value : Setting) : List (String × Setting) → List (String × Setting)
  | [] => [(key, value)]
  | (k, v) :: rest => if k = key then (k, value) :: rest else (k, v) :: put key value rest

/-- The entries of a table; what is no table has none. -/
def entries : Setting → List (String × Setting)
  | table es => es
  | _ => []

def get? (key : String) (s : Setting) : Option Setting :=
  find? key s.entries

/-- A table with an entry under a key. -/
def insert (s : Setting) (key : String) (value : Setting) : Setting :=
  table (put key value s.entries)

def items : Setting → List Setting
  | list items => items
  | _ => []

/-- The place that a number names in a list of `length` items; a negative one counts from the end. -/
def place (index : Int) (length : Nat) : Nat :=
  if index < 0 then length - index.natAbs else index.toNat

/-- A list with an item at a place; it grows as far as it has to. -/
def insertAt (s : Setting) (index : Nat) (value : Setting) : Setting :=
  list ((s.items ++ List.replicate (index + 1 - s.items.length) nil).set index value)

/-! ## Layers -/

mutual

/-- The second setting laid over the first. -/
def merge (below : Option Setting) : Setting → Setting
  | table es => mergeEntries (below.getD (table [])) es
  | v => v

def mergeEntries (below : Setting) : List (String × Setting) → Setting
  | [] => below
  | (k, v) :: rest => mergeEntries (below.insert (lower k) (merge (below.get? (lower k)) v)) rest

end

end Setting

/-! ## Places -/

/-- A step down a tree. -/
inductive Place where
  | key (name : String)
  | index (number : Int)
deriving DecidableEq, Repr

namespace Setting

/-- The tree with a value at a place.  What stands in the way gives place to tables and lists. -/
def assign (value : Setting) : List Place → Option Setting → Setting
  | [], _ => value
  | [.key name], s => (s.getD nil).insert (lower name) (merge ((s.getD nil).get? (lower name)) value)
  | .key name :: rest, s =>
    (s.getD nil).insert (lower name) (assign value rest ((s.getD nil).get? (lower name)))
  | .index number :: rest, s =>
    let at? := place number (s.getD nil).items.length
    (s.getD nil).insertAt at? (assign value rest ((s.getD nil).items[at?]?))

end Setting

namespace Place

def isNameChar (c : Char) : Bool :=
  c.isAlphanum || c == ' ' || c == '_' || c == '-'

/-- A name at the start of a text. -/
def readName (cs : List Char) : Option (String × List Char) :=
  let name := cs.takeWhile isNameChar
  if name.isEmpty then none else some (String.ofList name, cs.drop name.length)

def isSpace (c : Char) : Bool :=
  c == ' ' || c == '\t'

/-- A number in brackets, after the opening one. -/
def readIndex (cs : List Char) : Option (Int × List Char) :=
  let cs := cs.dropWhile isSpace
  let negative := cs.head? == some '-'
  let cs := if negative then cs.drop 1 else cs
  let ds := cs.takeWhile Decimal.isDigit
  match (cs.drop ds.length).dropWhile isSpace, Decimal.readNatural (Nat.pow 2 63 - 1) ds with
  | ']' :: rest, .ok n => some (if negative then - (n : Int) else n, rest)
  | _, _ => none

/-- Further steps: a name after a point, or a number in brackets. -/
def readSteps : Nat → List Char → Option (List Place)
  | _, [] => some []
  | 0, _ => none
  | fuel + 1, '.' :: cs => (readName cs).bind fun (name, rest) => (readSteps fuel rest).map (.key name :: ·)
  | fuel + 1, '[' :: cs => (readIndex cs).bind fun (n, rest) => (readSteps fuel rest).map (.index n :: ·)
  | _, _ => none

/-- The place that a text names; a text of any other form is a name as a whole. -/
def read (s : String) : List Place :=
  let cs := s.toList
  match (readName cs).bind fun (name, rest) => (readSteps rest.length rest).map (.key name :: ·) with
  | some place => place
  | none => [.key s]

end Place

namespace Setting

/-- A tree with every entry of a layer at the place that its key names. -/
def layer (s : Setting) (entries : List (String × Setting)) : Setting :=
  entries.foldl (fun s (key, value) => assign value (Place.read key) (some s)) s

end Setting
end TaskLifecycle
