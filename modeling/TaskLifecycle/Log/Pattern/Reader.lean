import TaskLifecycle.Log.Pattern.Basic
import TaskLifecycle.Text.Blank
import TaskLifecycle.Unicode.Letter

/-!
# TaskLifecycle.Log.Pattern.Reader — patterns from text

The text of a pattern stands in braces, between commas and behind `=`, so it has no closing brace, comma or `=` of its own.
A brace that opens a number of repetitions therefore spoils it.

A pattern may be spaced out: blanks do not count then, and a comment runs from `#` to the end of its line.

* `Pattern.escape`, `Pattern.members`, `Pattern.opening`: marks behind a backslash, sets, and what opens a group;
* `Pattern.read?`: the pattern that a text writes.
-/

namespace TaskLifecycle
namespace Log
namespace Pattern

/-! ## Blanks -/

/-- The text behind blanks and comments. -/
def skipBlanks (inComment : Bool) : List Char → List Char
  | [] => []
  | c :: rest =>
    if inComment then skipBlanks (c ≠ '\n') rest
    else if Text.isBlank c then skipBlanks false rest
    else if c = '#' then skipBlanks true rest
    else c :: rest

/-- The text behind what does not count. -/
def skip (spaced : Bool) (cs : List Char) : List Char :=
  if spaced then skipBlanks false cs else cs

/-- The next character that counts, where one `#` does not. -/
def peek (spaced : Bool) (cs : List Char) : Option Char :=
  if spaced then
    match cs.dropWhile Text.isBlank with
    | '#' :: rest => (rest.dropWhile Text.isBlank).head?
    | rest => rest.head?
  else cs.head?

/-! ## Marks behind a backslash -/

/-- The value of a hexadecimal digit. -/
def hexDigit? (c : Char) : Option Nat :=
  let n := c.toNat
  if 48 ≤ n ∧ n ≤ 57 then some (n - 48)
  else if 65 ≤ n ∧ n ≤ 70 then some (n - 55)
  else if 97 ≤ n ∧ n ≤ 102 then some (n - 87)
  else none

/-- The number that `width` hexadecimal digits write behind `n`. -/
def hexNumber (spaced : Bool) : Nat → Nat → List Char → Option (Nat × List Char)
  | 0, n, cs => some (n, cs)
  | width + 1, n, cs =>
    match skip spaced cs with
    | [] => none
    | c :: rest => (hexDigit? c).bind fun d => hexNumber spaced width (16 * n + d) rest

/-- A character written as `width` hexadecimal digits. -/
def coded (spaced : Bool) (width : Nat) (cs : List Char) : Option (Symbol × List Char) :=
  (hexNumber spaced width 0 cs).bind fun (n, rest) =>
    if h : n.isValidChar then some (.literal ⟨Char.ofNatAux n h, width = 2⟩, rest) else none

/-- A mark of ASCII that stands for itself behind a backslash. -/
def standsForItself (c : Char) : Bool :=
  c.toNat < 128 && !c.isAlphanum && c ≠ '<' && c ≠ '>'

/-- What is written behind a backslash. -/
def escape (spaced : Bool) : List Char → Option (Symbol × List Char)
  | [] => none
  | c :: rest =>
    if standsForItself c then some (.literal ⟨c, false⟩, rest)
    else match c with
      | 'x' => coded spaced 2 rest
      | 'u' => coded spaced 4 rest
      | 'U' => coded spaced 8 rest
      | 'd' | 's' | 'w' => some (.kind false, rest)
      | 'D' | 'S' | 'W' => some (.kind true, rest)
      | 'a' => some (.literal ⟨'\x07', false⟩, rest)
      | 't' => some (.literal ⟨'\t', false⟩, rest)
      | 'n' => some (.literal ⟨'\n', false⟩, rest)
      | 'v' => some (.literal ⟨'\x0b', false⟩, rest)
      | 'f' => some (.literal ⟨'\x0c', false⟩, rest)
      | 'r' => some (.literal ⟨'\r', false⟩, rest)
      | 'A' | 'z' => some (.place false, rest)
      | 'b' | 'B' | '<' | '>' => some (.place true, rest)
      | _ => none

/-! ## Sets -/

/-- A character in a set, or what is written behind a backslash there. -/
def memberMark (spaced : Bool) : List Char → Option (Symbol × List Char)
  | [] => none
  | '\\' :: rest => escape spaced rest
  | c :: rest => some (.literal ⟨c, false⟩, rest)

/-- A mark that stands alone in a set. -/
def single : Symbol → Option Members
  | .literal l => some (.literal l)
  | .kind negated => some (.kind negated)
  | _ => none

/-- The characters between two marks, the lower one first. -/
def between : Symbol → Symbol → Option Members
  | .literal l, .literal l' => if l.char ≤ l'.char then some (.range l l') else none
  | _, _ => none

/-- A mark of a set or a range of characters. -/
def member (spaced : Bool) (cs : List Char) : Option (Members × List Char) :=
  (memberMark spaced cs).bind fun (first, rest) =>
    match skip spaced rest with
    | '-' :: behind =>
      if peek spaced behind = some ']' ∨ peek spaced behind = some '-' then (single first).map (·, '-' :: behind)
      else
        (memberMark spaced (skip spaced behind)).bind fun (last, rest) => (between first last).map (·, rest)
    | rest => (single first).map (·, rest)

/-- The names of sets of ASCII. -/
def setNames : List String :=
  ["alnum", "alpha", "ascii", "blank", "cntrl", "digit", "graph", "lower", "print", "punct", "space", "upper", "word",
    "xdigit"]

/-- A set of ASCII by its name, after the opening bracket: whether all but it is meant. -/
def named : List Char → Option (Bool × List Char)
  | ':' :: rest =>
    let negated := rest.head? == some '^'
    let rest := if negated then rest.drop 1 else rest
    let name := rest.takeWhile (· ≠ ':')
    match rest.drop name.length with
    | ':' :: ']' :: rest => if setNames.contains (String.ofList name) then some (negated, rest) else none
    | _ => none
  | _ => none

/-- Dashes at the start of a set, which stand for themselves. -/
def dashes (spaced : Bool) : Nat → List Members → List Char → List Members × List Char
  | 0, items, cs => (items, cs)
  | fuel + 1, items, cs =>
    match cs with
    | '-' :: rest => dashes spaced fuel (.literal ⟨'-', false⟩ :: items) (skip spaced rest)
    | _ => (items, cs)

/-- The start of a set after its bracket: whether all but its members is meant, and the members that are marks elsewhere:
dashes, or a closing bracket. -/
def setStart (spaced : Bool) (cs : List Char) : Bool × List Members × List Char :=
  let cs := skip spaced cs
  let negated := cs.head? == some '^'
  let cs := if negated then skip spaced (cs.drop 1) else cs
  let (items, rest) := dashes spaced cs.length [] cs
  match items, rest with
  | [], ']' :: rest => (negated, [.literal ⟨']', false⟩], skip spaced rest)
  | items, rest => (negated, items, rest)

/-- Members read one after another, the last first. -/
def gather : List Members → Members
  | [] => .nothing
  | [m] => m
  | items => .union items.reverse

/-- Members behind a sign that combines them with those before it. -/
def joined (before : Option (Combination × Members)) (m : Members) : Members :=
  match before with
  | none => m
  | some (how, left) => .combined how left m

/-- The members of a set up to its closing bracket, those read since the last sign in `items`, the last first. -/
def members (spaced : Bool) : Nat → Option (Combination × Members) → List Members → List Char →
    Option (Members × List Char)
  | 0, _, _, _ => none
  | fuel + 1, before, items, cs =>
    match skip spaced cs with
    | [] => none
    | ']' :: rest => some (joined before (gather items), rest)
    | '[' :: rest =>
      match named rest with
      | some (negated, rest) => members spaced fuel before (.named negated :: items) rest
      | none =>
        let (negated, first, rest) := setStart spaced rest
        (members spaced fuel none first rest).bind fun (inner, rest) =>
          members spaced fuel before (.set negated inner :: items) rest
    | '&' :: '&' :: rest => members spaced fuel (some (.both, joined before (gather items))) [] rest
    | '-' :: '-' :: rest => members spaced fuel (some (.onlyFirst, joined before (gather items))) [] rest
    | '~' :: '~' :: rest => members spaced fuel (some (.oneOfTwo, joined before (gather items))) [] rest
    | rest => (member spaced rest).bind fun (m, rest) => members spaced fuel before (m :: items) rest

/-- A set after its opening bracket. -/
def set? (spaced : Bool) (cs : List Char) : Option (Pattern × List Char) :=
  let (negated, first, rest) := setStart spaced cs
  (members spaced (cs.length + 1) none first rest).map fun (m, rest) => (.set negated m, rest)

/-! ## Groups -/

/-- The letters of the switches. -/
def switchLetters : List Char :=
  ['i', 'm', 's', 'U', 'u', 'R', 'x']

/-- Letters of switches, those to be cleared behind a dash. -/
def switches? (letters : List Char) : Option Switches :=
  if letters.all (fun c => switchLetters.contains c || c == '-') ∧ letters.Nodup ∧ letters.getLast? ≠ some '-' then
    some ⟨letters.takeWhile (· ≠ '-'), (letters.dropWhile (· ≠ '-')).drop 1⟩
  else none

/-- The name of a group. -/
def isGroupName : List Char → Bool
  | [] => false
  | c :: rest =>
    (c == '_' || Unicode.isAlphabetic c) &&
      rest.all fun d => d == '_' || d == '.' || d == '[' || d == ']' || Unicode.isAlphanumeric d

/-- What opens with a parenthesis: switches for what follows in the same group, or a group. -/
inductive Opening where
  | switches (s : Switches)
  | group (name : Option (List Char)) (s : Switches)

/-- A group with a name, before the name. -/
def namedOpening (cs : List Char) : Option (Opening × List Char) :=
  let name := cs.takeWhile (· ≠ '>')
  if isGroupName name ∧ name.length < cs.length then some (.group (some name) ⟨[], []⟩, cs.drop (name.length + 1))
  else none

/-- What stands behind an opening parenthesis. -/
def opening : List Char → Option (Opening × List Char)
  | '?' :: 'P' :: '<' :: rest | '?' :: '<' :: rest => namedOpening rest
  | '?' :: rest =>
    let letters := rest.takeWhile fun c => c ≠ ':' ∧ c ≠ ')'
    (switches? letters).bind fun s =>
      match rest.drop letters.length with
      | ':' :: rest => some (.group none s, rest)
      | ')' :: rest => if letters.isEmpty then none else some (.switches s, rest)
      | _ => none
  | rest => some (.group none ⟨[], []⟩, rest)

/-! ## Patterns -/

/-- Parts read one after another, the last first. -/
def inSequence : List Pattern → Pattern
  | [] => .empty
  | [p] => p
  | ps => .sequence ps.reverse

/-- Branches read one after another, the last first. -/
def inChoice : List Pattern → Pattern
  | [] => .empty
  | [p] => p
  | ps => .choice ps.reverse

/-- The last part of those read repeated; switches cannot be. -/
def repeatLast : List Pattern → Option (List Pattern)
  | [] | .switch _ :: _ => none
  | p :: ps => some (.repeated p :: ps)

/-- The text behind a `?` that asks for few repetitions. -/
def skipFew : List Char → List Char
  | '?' :: rest => rest
  | rest => rest

/-- A mark outside a set. -/
def mark (spaced : Bool) : List Char → Option (Symbol × List Char)
  | [] => none
  | '\\' :: rest => escape spaced rest
  | '.' :: rest => some (.any, rest)
  | '^' :: rest | '$' :: rest => some (.place false, rest)
  | c :: rest => some (.literal ⟨c, false⟩, rest)

/-- A pattern up to the parenthesis that closes it or the end of the text.  Its branches before the last are in `branches`,
the parts of the last in `parts`, the last first. -/
def branches (spaced : Bool) : Nat → List Pattern → List Pattern → List Char → Option (Pattern × List Char)
  | 0, _, _, _ => none
  | fuel + 1, done, parts, cs =>
    match skip spaced cs with
    | [] => some (inChoice (inSequence parts :: done), [])
    | ')' :: rest => some (inChoice (inSequence parts :: done), ')' :: rest)
    | '|' :: rest => branches spaced fuel (inSequence parts :: done) [] rest
    | '(' :: rest =>
      match opening (skip spaced rest) with
      | none => none
      | some (.switches s, rest) => branches (s.state 'x' spaced) fuel done (.switch s :: parts) rest
      | some (.group name s, rest) =>
        (branches (s.state 'x' spaced) fuel [] [] rest).bind fun (p, rest) =>
          match rest with
          | ')' :: rest => branches spaced fuel done (.group name s p :: parts) rest
          | _ => none
    | '[' :: rest => (set? spaced rest).bind fun (p, rest) => branches spaced fuel done (p :: parts) rest
    | '?' :: rest | '*' :: rest | '+' :: rest =>
      (repeatLast parts).bind fun parts => branches spaced fuel done parts (skipFew rest)
    | '\x7b' :: _ => none
    | rest => (mark spaced rest).bind fun (s, rest) => branches spaced fuel done (.symbol s :: parts) rest

/-- The pattern that a text writes.  Every part takes a character, so the length of the text bounds them. -/
def read? (cs : List Char) : Option Pattern :=
  match branches false (cs.length + 1) [] [] cs with
  | some (p, []) => some p
  | _ => none

end Pattern
end Log
end TaskLifecycle
