/-!
# TaskLifecycle.Unicode.Runs — character properties as tables of runs

A property of characters is written as rows of records, each `gap[+span][/step][=entry[~slope]]` in hexadecimal:

* `gap`: distance of the first character from the last one of the record before;
* `span`: distance of the last character from the first, with `step` between neighbours;
* `entry`: what the table says of the first character, a dotted list of numbers;
* `slope`: what the entry grows by from one character of the run to the next.
-/

namespace TaskLifecycle
namespace Unicode

/-- Characters `first`, `first + step`, …, `last`, with the entry of the first of them. -/
structure Run where
  first : Nat
  last : Nat
  step : Nat
  entry : List Nat
  slope : Nat

namespace Run

/-- What the run says of the character number `n`, if `n` is one of its characters. -/
def entryAt (r : Run) (n : Nat) : Option (List Nat) :=
  if r.first ≤ n ∧ n ≤ r.last ∧ (n - r.first) % r.step = 0 then
    some (r.entry.map (· + (n - r.first) / r.step * r.slope))
  else none

end Run

/-! ## Reading the rows -/

/-- The value of a hexadecimal digit in lower case. -/
def hexDigit (c : Char) : Nat :=
  if c.isDigit then c.toNat - 48 else c.toNat - 87

/-- The number that hexadecimal digits write. -/
def hexValue (cs : List Char) : Nat :=
  cs.foldl (fun n c => 16 * n + hexDigit c) 0

/-- The text before the first `sep`, and what follows it. -/
def cut (sep : Char) (cs : List Char) : List Char × List Char :=
  (cs.takeWhile (· ≠ sep), (cs.dropWhile (· ≠ sep)).drop 1)

/-- The numbers of a dotted list. -/
def dotted (s : String) : List Nat :=
  (s.splitOn ".").map (fun t => hexValue t.toList)

/-- The run that a record describes, when the one before it ended at `last`. -/
def readRun (last : Nat) (record : String) : Run :=
  let (place, entry) := cut '=' record.toList
  let (place, step) := cut '/' place
  let (gap, span) := cut '+' place
  let (entry, slope) := cut '~' entry
  let first := last + hexValue gap
  { first := first, last := first + hexValue span, step := max 1 (hexValue step),
    entry := dotted (String.ofList entry), slope := hexValue slope }

/-- The runs of the rows, in the order of their characters. -/
def readRuns (rows : List String) : Array Run :=
  (rows.foldl (fun acc row =>
    (row.splitOn " ").foldl (fun (runs, last) record =>
      let r := readRun last record
      (runs.push r, r.last)) acc) ((#[] : Array Run), 0)).1

/-! ## Looking a character up -/

/-- The last run of `runs[lo:hi]` that starts at or below `n`, else the run at `lo`. -/
def seek (runs : Array Run) (n lo hi : Nat) : Option Run :=
  if hi ≤ lo + 1 then runs[lo]?
  else
    let mid := (lo + hi) / 2
    match runs[mid]? with
    | none => runs[lo]?
    | some r => if r.first ≤ n then seek runs n mid hi else seek runs n lo mid
  termination_by hi - lo

/-- The entry of a character in a table, if the table lists it. -/
def lookup (runs : Array Run) (c : Char) : Option (List Nat) :=
  (seek runs c.toNat 0 runs.size).bind (·.entryAt c.toNat)

/-- Whether a table lists a character. -/
def listed (runs : Array Run) (c : Char) : Bool :=
  (lookup runs c).isSome

end Unicode
end TaskLifecycle
