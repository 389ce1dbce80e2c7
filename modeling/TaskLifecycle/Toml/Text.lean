import TaskLifecycle.Text.Decimal

/-!
# TaskLifecycle.Toml.Text — blanks, strings and keys of TOML

Readers take the rest of a text and return what they read with the rest behind it.

* `lineEnd`: the end of a line, with a comment before it; `skipLines`: any number of lines without content;
* `string`: the four kinds of strings; `dottedKey`: a key.
-/

namespace TaskLifecycle
namespace Toml

/-! ## Blanks and comments -/

def isSpace (c : Char) : Bool :=
  c == ' ' || c == '\t'

def skipSpace (cs : List Char) : List Char :=
  cs.dropWhile isSpace

/-- A character that may stand in comments and strings. -/
def isPlain (c : Char) : Bool :=
  c == '\t' || (32 ≤ c.toNat && c.toNat ≠ 127)

/-- What follows the end of a line. -/
def newline : List Char → Option (List Char)
  | '\n' :: rest => some rest
  | '\r' :: '\n' :: rest => some rest
  | _ => none

/-- What follows a comment, if there is one. -/
def skipComment : List Char → List Char
  | '#' :: rest => rest.dropWhile isPlain
  | cs => cs

/-- What follows blanks, a comment and the end of the line; the text may end there too. -/
def lineEnd (cs : List Char) : Option (List Char) :=
  match skipComment (skipSpace cs) with
  | [] => some []
  | rest => newline rest

/-- What follows blanks, comments and ends of lines. -/
def skipLines : Nat → List Char → List Char
  | 0, cs => cs
  | fuel + 1, cs =>
    let rest := skipComment (skipSpace cs)
    match newline rest with
    | some rest => skipLines fuel rest
    | none => rest

/-! ## Strings -/

def hexValue (c : Char) : Option Nat :=
  let n := c.toNat
  if 48 ≤ n ∧ n ≤ 57 then some (n - 48)
  else if 97 ≤ n ∧ n ≤ 102 then some (n - 87)
  else if 65 ≤ n ∧ n ≤ 70 then some (n - 55)
  else none

/-- The character whose number is written with `width` hexadecimal digits. -/
def hexChar (width : Nat) (cs : List Char) : Option (Char × List Char) :=
  if cs.length < width then none
  else
    ((cs.take width).foldl (fun n c => n.bind fun n => (hexValue c).map (16 * n + ·)) (some 0)).bind fun n =>
      if n.isValidChar then some (Char.ofNat n, cs.drop width) else none

/-- The character that a backslash and what follows it write. -/
def escaped : List Char → Option (Char × List Char)
  | 'b' :: rest => some (Char.ofNat 8, rest)
  | 't' :: rest => some ('\t', rest)
  | 'n' :: rest => some ('\n', rest)
  | 'f' :: rest => some (Char.ofNat 12, rest)
  | 'r' :: rest => some ('\r', rest)
  | '"' :: rest => some ('"', rest)
  | '\\' :: rest => some ('\\', rest)
  | 'u' :: rest => hexChar 4 rest
  | 'U' :: rest => hexChar 8 rest
  | _ => none

/-- A string on one line after its opening quote; escapes are read where `escapes` says so. -/
def lineString (quote : Char) (escapes : Bool) : Nat → String → List Char → Option (String × List Char)
  | 0, _, _ => none
  | _ + 1, _, [] => none
  | fuel + 1, out, c :: rest =>
    if c = quote then some (out, rest)
    else if c = '\\' ∧ escapes then
      (escaped rest).bind fun (c, rest) => lineString quote escapes fuel (out.push c) rest
    else if isPlain c then lineString quote escapes fuel (out.push c) rest
    else none

/-- What follows a backslash at the end of a line: the first character that is neither blank nor the end of a line. -/
def skipFold : Nat → List Char → List Char
  | 0, cs => cs
  | fuel + 1, cs =>
    match newline (skipSpace cs) with
    | some rest => skipFold fuel rest
    | none => skipSpace cs

def quotes (quote : Char) (n : Nat) (out : String) : String :=
  (List.replicate n quote).foldl String.push out

/-- A string over several lines after its opening quotes.  Up to two quotes before the closing three belong to it. -/
def blockString (quote : Char) (escapes : Bool) : Nat → String → List Char → Option (String × List Char)
  | 0, _, _ => none
  | _ + 1, _, [] => none
  | fuel + 1, out, c :: rest =>
    if c = quote then
      let n := ((c :: rest).takeWhile (· = quote)).length
      if n < 3 then blockString quote escapes fuel (quotes quote n out) ((c :: rest).drop n)
      else some (quotes quote (min n 5 - 3) out, (c :: rest).drop (min n 5))
    else if c = '\\' ∧ escapes then
      match newline (skipSpace rest) with
      | some rest => blockString quote escapes fuel out (skipFold rest.length rest)
      | none => (escaped rest).bind fun (c, rest) => blockString quote escapes fuel (out.push c) rest
    else match newline (c :: rest) with
      | some rest => blockString quote escapes fuel (out.push '\n') rest
      | none => if isPlain c then blockString quote escapes fuel (out.push c) rest else none

/-- A string over several lines after its opening quotes, without the end of the line that follows them. -/
def block (quote : Char) (escapes : Bool) (cs : List Char) : Option (String × List Char) :=
  let body := (newline cs).getD cs
  blockString quote escapes (body.length + 1) "" body

/-- A string of any kind. -/
def string : List Char → Option (String × List Char)
  | '"' :: '"' :: '"' :: rest => block '"' true rest
  | '\'' :: '\'' :: '\'' :: rest => block '\'' false rest
  | '"' :: rest => lineString '"' true (rest.length + 1) "" rest
  | '\'' :: rest => lineString '\'' false (rest.length + 1) "" rest
  | _ => none

/-! ## Keys -/

def isKeyChar (c : Char) : Bool :=
  c.isAlphanum || c == '_' || c == '-'

/-- A key without points: bare, or a string on one line. -/
def simpleKey : List Char → Option (String × List Char)
  | '"' :: rest => lineString '"' true (rest.length + 1) "" rest
  | '\'' :: rest => lineString '\'' false (rest.length + 1) "" rest
  | cs =>
    let name := cs.takeWhile isKeyChar
    if name.isEmpty then none else some (String.ofList name, cs.drop name.length)

/-- The keys between points. -/
def keys : Nat → List Char → Option (List String × List Char)
  | 0, _ => none
  | fuel + 1, cs =>
    (simpleKey (skipSpace cs)).bind fun (key, rest) =>
      match skipSpace rest with
      | '.' :: rest => (keys fuel rest).map fun (others, rest) => (key :: others, rest)
      | rest => some ([key], rest)

/-- How many names a key may have, and how deep arrays and inline tables may lie in each other. -/
def maxDepth : Nat := 79

/-- A key: some names with points between them, and blanks around each. -/
def dottedKey (cs : List Char) : Option (List String × List Char) :=
  (keys (cs.length + 1) cs).filter fun key => key.1.length ≤ maxDepth

end Toml
end TaskLifecycle
