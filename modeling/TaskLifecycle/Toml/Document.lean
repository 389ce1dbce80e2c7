import TaskLifecycle.Toml.Scalar

/-!
# TaskLifecycle.Toml.Document — TOML documents

A document is a list of lines: headers of tables, and keys with values that belong to the table of the last header.  A
table is made once: a header may complete a table that only headers below it have named, a dotted key one that only dotted
keys have named.  A table whose first key is `dateKey` is no table but the date that stands there in a string.

* `Node`: a table while it is read; `Node.define`, `Node.openTable`, `Node.openSeries`: what a line does to it;
* `Toml.read`: the tree of settings that a document writes.
-/

namespace TaskLifecycle
namespace Toml

/-! ## Tables while they are read -/

/-- How a table came to be: named on the way to another, by dotted keys, or by a header of its own. -/
inductive Made where
  | onTheWay
  | dotted
  | header
deriving DecidableEq, Repr

inductive Node where
  | scalar (s : Scalar)
  | array (items : List Node)
  | inline (entries : List (String × Node))
  | table (made : Made) (entries : List (String × Node))
  | series (earlier : List Node) (last : Node)

namespace Node

def find? (key : String) : List (String × Node) → Option Node
  | [] => none
  | (k, v) :: rest => if k = key then some v else find? key rest

/-- Entries with one under a key, in the place of the one that was there. -/
def put (key : String) (node : Node) : List (String × Node) → List (String × Node)
  | [] => [(key, node)]
  | (k, v) :: rest => if k = key then (k, node) :: rest else (k, v) :: put key node rest

/-- Entries without the one under a key. -/
def remove (key : String) (entries : List (String × Node)) : List (String × Node) :=
  entries.filter fun entry => entry.1 ≠ key

/-- The node with a change to the table that a path leads to.  Tables that are missing are made; of a series of tables the
last is meant. -/
def change (viaDots : Bool) (f : Node → Option Node) : List String → Node → Option Node
  | [], node => f node
  | key :: path, .table made entries =>
    match find? key entries with
    | none =>
      (change viaDots f path (.table (if viaDots then .dotted else .onTheWay) [])).map
        fun node => .table made (put key node entries)
    | some (.series earlier last) =>
      (change viaDots f path last).map fun last => .table made (put key (.series earlier last) entries)
    | some (.table below under) =>
      if viaDots ∧ below = .header then none
      else (change viaDots f path (.table below under)).map fun node => .table made (put key node entries)
    | some _ => none
  | _, _ => none

/-- A table with a value under a new key.  A table that dotted keys lead to is one that dotted keys made. -/
def defineHere (viaDots : Bool) (key : String) (v : Node) : Node → Option Node
  | .table made entries =>
    if decide (made = .dotted) ≠ viaDots ∨ (find? key entries).isSome then none
    else some (.table made (put key v entries))
  | _ => none

/-- The node with a value under a dotted key of the table that `path` leads to. -/
def define (node : Node) (path key : List String) (v : Node) : Option Node :=
  match key.getLast? with
  | none => none
  | some last =>
    let dots := key.dropLast
    change false (change true (defineHere (!dots.isEmpty) last v) dots) path node

/-- A table with a header for one of its tables, which becomes the last of them. -/
def openHere (key : String) : Node → Option Node
  | .table made entries =>
    match find? key entries with
    | none => some (.table made (put key (.table .header []) entries))
    | some (.table .onTheWay under) => some (.table made (put key (.table .header under) (remove key entries)))
    | _ => none
  | _ => none

/-- The node after the header of a table. -/
def openTable (path : List String) (node : Node) : Option Node :=
  match path.getLast? with
  | none => none
  | some last => change false (openHere last) path.dropLast node

/-- A table with a header for a further table of a series. -/
def openNextHere (key : String) : Node → Option Node
  | .table made entries =>
    match find? key entries with
    | none => some (.table made (put key (.series [] (.table .header [])) entries))
    | some (.series earlier last) =>
      some (.table made (put key (.series (last :: earlier) (.table .header [])) entries))
    | _ => none
  | _ => none

/-- The node after the header of a further table of a series. -/
def openSeries (path : List String) (node : Node) : Option Node :=
  match path.getLast? with
  | none => none
  | some last => change false (openNextHere last) path.dropLast node

/-- The first key of a table that stands for a date. -/
def dateKey : String := "$__toml_private_datetime"

/-- The text of a string. -/
def text? : Node → Option String
  | .scalar (.value (.text s)) => some s
  | _ => none

mutual

/-- The settings in a node, if its dates are some. -/
def settings? : Node → Option Setting
  | .scalar (.value v) => some v
  | .scalar (.date text) => some (.text text)
  | .array items => (allSettings? items).map .list
  | .inline entries | .table _ entries => tableSettings? entries
  | .series earlier last => do
    let items ← allSettings? earlier
    let item ← settings? last
    return .list (items.reverse ++ [item])

def allSettings? : List Node → Option (List Setting)
  | [] => some []
  | node :: rest => do
    let s ← settings? node
    let others ← allSettings? rest
    return s :: others

/-- The settings in a table, or the date that it stands for. -/
def tableSettings? : List (String × Node) → Option Setting
  | [] => some (.table [])
  | (key, node) :: rest =>
    if key = dateKey then (node.text?.bind quotedDate).map .text
    else do
      let s ← settings? node
      let others ← entrySettings? rest
      return .table ((key, s) :: others)

def entrySettings? : List (String × Node) → Option (List (String × Setting))
  | [] => some []
  | (key, node) :: rest => do
    let s ← settings? node
    let others ← entrySettings? rest
    return (key, s) :: others

end

/-- A table without entries. -/
def empty : Node :=
  .table .header []

/-- A table to which nothing can be added. -/
def closed : Node → Node
  | .table _ entries => .inline entries
  | node => node

end Node

/-! ## Values -/

/-- A mark after blanks. -/
def mark (c : Char) (cs : List Char) : Option (List Char) :=
  match skipSpace cs with
  | d :: rest => if d = c then some rest else none
  | [] => none

mutual

/-- A value of any kind, within `depth` arrays and inline tables. -/
def value : Nat → Nat → List Char → Option (Node × List Char)
  | 0, _, _ => none
  | fuel + 1, depth, cs =>
    match cs with
    | '[' :: rest => if depth < maxDepth then arrayItems fuel (depth + 1) [] rest else none
    | '{' :: rest =>
      if maxDepth ≤ depth then none
      else match skipSpace rest with
        | '}' :: rest => some (.inline [], rest)
        | rest => inlineEntries fuel (depth + 1) Node.empty rest
    | _ => (scalar cs).map fun (s, rest) => (.scalar s, rest)

/-- The items of an array, those read before in `done`, the last first. -/
def arrayItems : Nat → Nat → List Node → List Char → Option (Node × List Char)
  | 0, _, _, _ => none
  | fuel + 1, depth, done, cs =>
    match skipLines cs.length cs with
    | ']' :: rest => some (.array done.reverse, rest)
    | rest =>
      (value fuel depth rest).bind fun (v, rest) =>
        match skipLines rest.length rest with
        | ',' :: rest => arrayItems fuel depth (v :: done) rest
        | ']' :: rest => some (.array (v :: done).reverse, rest)
        | _ => none

/-- The entries of an inline table. -/
def inlineEntries : Nat → Nat → Node → List Char → Option (Node × List Char)
  | 0, _, _, _ => none
  | fuel + 1, depth, node, cs =>
    (dottedKey cs).bind fun (key, rest) =>
      (mark '=' rest).bind fun rest =>
        (value fuel depth (skipSpace rest)).bind fun (v, rest) =>
          (node.define [] key v).bind fun node =>
            match skipSpace rest with
            | ',' :: rest => inlineEntries fuel depth node rest
            | '}' :: rest => some (node.closed, rest)
            | _ => none

end

/-! ## Documents -/

/-- A line of a document: what it does to the tables, the path of the last header after it, and the lines behind it. -/
def line (node : Node) (path : List String) (cs : List Char) : Option (Node × List String × List Char) :=
  match skipSpace cs with
  | '[' :: '[' :: rest => do
    let (key, rest) ← dottedKey rest
    let rest ← mark ']' rest
    let rest ← if rest.head? = some ']' then lineEnd (rest.drop 1) else none
    let node ← node.openSeries key
    return (node, key, rest)
  | '[' :: rest => do
    let (key, rest) ← dottedKey rest
    let rest ← (mark ']' rest).bind lineEnd
    let node ← node.openTable key
    return (node, key, rest)
  | rest =>
    match lineEnd rest with
    | some rest => some (node, path, rest)
    | none => do
      let (key, rest) ← dottedKey rest
      let rest ← mark '=' rest
      let (v, rest) ← value (rest.length + 1) 0 (skipSpace rest)
      let rest ← lineEnd rest
      let node ← node.define path key v
      return (node, path, rest)

/-- The lines of a document.  Every line is shorter than the text from it on, so the length of the text bounds them. -/
def lines : Nat → Node → List String → List Char → Option Node
  | _, node, _, [] => some node
  | 0, _, _, _ => none
  | fuel + 1, node, path, cs => (line node path cs).bind fun (node, path, rest) => lines fuel node path rest

/-- The settings that a document writes. -/
def read (s : String) : Option (List (String × Setting)) :=
  let cs := s.toList
  let cs := if cs.head? = some '\uFEFF' then cs.drop 1 else cs
  ((lines (cs.length + 1) Node.empty [] cs).bind Node.settings?).bind fun
    | .table entries => some entries
    | _ => none

end Toml
end TaskLifecycle
