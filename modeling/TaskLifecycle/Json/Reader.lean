import TaskLifecycle.Json.Basic
import TaskLifecycle.Text.Decimal

/-!
# TaskLifecycle.Json.Reader — reading JSON text

* `read`: the value that a text writes.  A number without fraction and exponent that fits 64 bits is whole, every other a
  double; `-0` is a double too.  Of two entries with one key the later stays.
-/

namespace TaskLifecycle
namespace Json

def skipBlanks (cs : List Char) : List Char :=
  cs.dropWhile (fun c => c == ' ' || c == '\n' || c == '\r' || c == '\t')

/-! ## Numbers -/

/-- What has been read of a number: its leading digits while they fit 64 bits, how many tens to multiply by, and whether
a digit has been left out. -/
structure Significand where
  digits : Nat
  power : Int
  full : Bool

/-- The whole digits: after the first that does not fit each one counts as a ten. -/
def wholeDigits : Significand → List Char → Significand × List Char
  | s, [] => (s, [])
  | s, c :: rest =>
    if Decimal.isDigit c then
      let n := 10 * s.digits + Decimal.digitValue c
      if s.full ∨ UInt64.size ≤ n then wholeDigits ⟨s.digits, s.power + 1, true⟩ rest else wholeDigits ⟨n, 0, false⟩ rest
    else (s, c :: rest)

/-- The digits of a fraction: the first that does not fit and those after it are left out. -/
def fractionDigits : Significand → List Char → Significand × List Char
  | s, [] => (s, [])
  | s, c :: rest =>
    if Decimal.isDigit c then
      let n := 10 * s.digits + Decimal.digitValue c
      if s.full ∨ UInt64.size ≤ n then fractionDigits { s with full := true } rest
      else fractionDigits ⟨n, s.power - 1, false⟩ rest
    else (s, c :: rest)

/-- The digits of an exponent. -/
def exponentDigits : Nat → List Char → Nat × List Char
  | n, [] => (n, [])
  | n, c :: rest => if Decimal.isDigit c then exponentDigits (10 * n + Decimal.digitValue c) rest else (n, c :: rest)

def startsWithDigit : List Char → Bool
  | c :: _ => Decimal.isDigit c
  | [] => false

/-- The exponent that follows a number, if one does. -/
def exponent? : List Char → Option (Int × List Char)
  | [] => some (0, [])
  | c :: rest =>
    if c = 'e' ∨ c = 'E' then
      let negative := rest.head? == some '-'
      let cs := if negative ∨ rest.head? = some '+' then rest.drop 1 else rest
      if startsWithDigit cs then
        let e := exponentDigits 0 cs
        some (if negative then - (e.1 : Int) else e.1, e.2)
      else none
    else some (0, c :: rest)

/-- A double with its sign. -/
def double? (negative : Bool) (s : Significand) (exponent : Int) : Option Json :=
  (Double.ofDecimal? s.digits (s.power + exponent)).map fun x => .number (.double { x with negative := negative })

/-- A number after its sign. -/
def readNumber (negative : Bool) (cs : List Char) : Option (Json × List Char) :=
  if ¬ startsWithDigit cs ∨ (cs.head? = some '0' ∧ startsWithDigit (cs.drop 1)) then none
  else
    let w := wholeDigits ⟨0, 0, false⟩ cs
    match w.2 with
    | '.' :: rest =>
      if ¬ startsWithDigit rest then none
      else
        let f := fractionDigits { w.1 with full := false } rest
        (exponent? f.2).bind fun e => (double? negative f.1 e.1).map (·, e.2)
    | rest =>
      if rest.head? = some 'e' ∨ rest.head? = some 'E' ∨ w.1.full then
        (exponent? rest).bind fun e => (double? negative w.1 e.1).map (·, e.2)
      else if ¬ negative then some (.int w.1.digits, rest)
      else if 0 < w.1.digits ∧ w.1.digits ≤ Nat.pow 2 63 then some (.int (- (w.1.digits : Int)), rest)
      else (double? true w.1 0).map (·, rest)

/-! ## Strings -/

def hexValue (c : Char) : Option Nat :=
  let n := c.toNat
  if 48 ≤ n ∧ n ≤ 57 then some (n - 48)
  else if 97 ≤ n ∧ n ≤ 102 then some (n - 87)
  else if 65 ≤ n ∧ n ≤ 70 then some (n - 55)
  else none

/-- Four hexadecimal digits. -/
def fourDigits : List Char → Option (Nat × List Char)
  | a :: b :: c :: d :: rest =>
    match hexValue a, hexValue b, hexValue c, hexValue d with
    | some a, some b, some c, some d => some (((a * 16 + b) * 16 + c) * 16 + d, rest)
    | _, _, _, _ => none
  | _ => none

/-- The character that `\u` and four digits write; one beyond 2^16 takes two of them. -/
def unicode? (cs : List Char) : Option (Char × List Char) :=
  (fourDigits cs).bind fun (n, rest) =>
    if 0xDC00 ≤ n ∧ n < 0xE000 then none
    else if n < 0xD800 ∨ 0xE000 ≤ n then some (Char.ofNat n, rest)
    else match rest with
      | '\\' :: 'u' :: rest =>
        (fourDigits rest).bind fun (m, rest) =>
          if 0xDC00 ≤ m ∧ m < 0xE000 then some (Char.ofNat (0x10000 + (n - 0xD800) * 1024 + (m - 0xDC00)), rest)
          else none
      | _ => none

/-- The character that a backslash and what follows it write. -/
def escaped? : List Char → Option (Char × List Char)
  | '"' :: rest => some ('"', rest)
  | '\\' :: rest => some ('\\', rest)
  | '/' :: rest => some ('/', rest)
  | 'b' :: rest => some (Char.ofNat 8, rest)
  | 'f' :: rest => some (Char.ofNat 12, rest)
  | 'n' :: rest => some ('\n', rest)
  | 'r' :: rest => some ('\r', rest)
  | 't' :: rest => some ('\t', rest)
  | 'u' :: rest => unicode? rest
  | _ => none

/-- A string after its opening quote. -/
def readString : Nat → String → List Char → Option (String × List Char)
  | 0, _, _ => none
  | fuel + 1, out, cs =>
    match cs with
    | [] => none
    | '"' :: rest => some (out, rest)
    | '\\' :: rest => (escaped? rest).bind fun (c, rest) => readString fuel (out.push c) rest
    | c :: rest => if c.toNat < 32 then none else readString fuel (out.push c) rest

/-! ## Values -/

/-- What follows a word. -/
def after (word : List Char) (cs : List Char) : Option (List Char) :=
  if word.isPrefixOf cs then some (cs.drop word.length) else none

mutual

/-- A value after blanks. -/
def readValue : Nat → List Char → Option (Json × List Char)
  | 0, _ => none
  | fuel + 1, cs =>
    match skipBlanks cs with
    | [] => none
    | 'n' :: rest => (after ['u', 'l', 'l'] rest).map (Json.null, ·)
    | 't' :: rest => (after ['r', 'u', 'e'] rest).map (Json.bool true, ·)
    | 'f' :: rest => (after ['a', 'l', 's', 'e'] rest).map (Json.bool false, ·)
    | '"' :: rest => (readString fuel "" rest).map fun (s, rest) => (Json.string s, rest)
    | '-' :: rest => readNumber true rest
    | '[' :: rest =>
      match skipBlanks rest with
      | ']' :: rest => some (.array [], rest)
      | rest => readItems fuel [] rest
    | '{' :: rest =>
      match skipBlanks rest with
      | '}' :: rest => some (.object [], rest)
      | rest => readEntries fuel [] rest
    | rest => readNumber false rest

/-- The items of an array, those read before in `done`, the last first. -/
def readItems : Nat → List Json → List Char → Option (Json × List Char)
  | 0, _, _ => none
  | fuel + 1, done, cs =>
    (readValue fuel cs).bind fun (v, rest) =>
      match skipBlanks rest with
      | ',' :: rest => readItems fuel (v :: done) rest
      | ']' :: rest => some (.array (v :: done).reverse, rest)
      | _ => none

/-- The entries of an object, those read before in `done`, the last first. -/
def readEntries : Nat → List (String × Json) → List Char → Option (Json × List Char)
  | 0, _, _ => none
  | fuel + 1, done, cs =>
    match skipBlanks cs with
    | '"' :: rest =>
      (readString fuel "" rest).bind fun (k, rest) =>
        match skipBlanks rest with
        | ':' :: rest =>
          (readValue fuel rest).bind fun (v, rest) =>
            match skipBlanks rest with
            | ',' :: rest => readEntries fuel ((k, v) :: done) rest
            | '}' :: rest => some (.ofEntries ((k, v) :: done).reverse, rest)
            | _ => none
        | _ => none
    | _ => none

end

/-- The value that a text writes.  Every step reads a character, so the length of the text bounds their number. -/
def read (s : String) : Option Json :=
  let cs := s.toList
  (readValue (2 * cs.length + 2) cs).bind fun (v, rest) => if skipBlanks rest = [] then some v else none

end Json
end TaskLifecycle
