import TaskLifecycle.Setting
import TaskLifecycle.Toml.Text

/-!
# TaskLifecycle.Toml.Scalar — numbers, truth values and dates of TOML

* `number`: a whole number of 64 bits or a floating point number; digits may have underscores between them;
* `dateTime`: a date, a time or both, as the text of its normal form; `quotedDate`: one that a string holds;
* `scalar`: a value that is no array and no table.
-/

namespace TaskLifecycle
namespace Toml

/-! ## Numbers -/

/-- Digits with single underscores between them, without the underscores. -/
def digitGroups (isDigit : Char → Bool) : Nat → List Char → Option (List Char × List Char)
  | 0, _ => none
  | fuel + 1, cs =>
    let ds := cs.takeWhile isDigit
    if ds.isEmpty then none
    else match cs.drop ds.length with
      | '_' :: rest => (digitGroups isDigit fuel rest).map fun (others, rest) => (ds ++ others, rest)
      | rest => some (ds, rest)

def groups (isDigit : Char → Bool) (cs : List Char) : Option (List Char × List Char) :=
  digitGroups isDigit (cs.length + 1) cs

/-- Decimal digits; a number of several does not begin with zero. -/
def wholePart (cs : List Char) : Option (List Char × List Char) :=
  match cs with
  | '0' :: rest => if (rest.takeWhile (fun c => Decimal.isDigit c || c == '_')).isEmpty then some (['0'], rest) else none
  | _ => groups Decimal.isDigit cs

/-- The value of digits to a base. -/
def valueIn (base : Nat) (ds : List Char) : Nat :=
  ds.foldl (fun n c => base * n + (hexValue c).getD 0) 0

/-- A whole number of 64 bits. -/
def signedWord (negative : Bool) (n : Nat) : Option Setting :=
  if negative then (if n ≤ Nat.pow 2 63 then some (.whole (- (n : Int))) else none)
  else if n < Nat.pow 2 63 then some (.whole n) else none

/-- A whole number to a base other than ten, after the letter for it. -/
def inBase (base : Nat) (isDigit : Char → Bool) (cs : List Char) : Option (Setting × List Char) :=
  (groups isDigit cs).bind fun (ds, rest) => (signedWord false (valueIn base ds)).map (·, rest)

def isHexDigit (c : Char) : Bool :=
  (hexValue c).isSome

def isOctalDigit (c : Char) : Bool :=
  48 ≤ c.toNat && c.toNat ≤ 55

def isBinaryDigit (c : Char) : Bool :=
  c == '0' || c == '1'

/-- A point and digits behind a number; none where there is no point. -/
def fractionPart : List Char → Option (List Char × List Char)
  | '.' :: rest => groups Decimal.isDigit rest
  | cs => some ([], cs)

/-- The exponent behind a number, if there is one. -/
def exponentPart (cs : List Char) : Option (Int × List Char) :=
  match cs with
  | [] => some (0, [])
  | c :: rest =>
    if c = 'e' ∨ c = 'E' then
      let negative := rest.head? == some '-'
      let ds := if negative ∨ rest.head? = some '+' then rest.drop 1 else rest
      (groups Decimal.isDigit ds).map fun (ds, rest) =>
        (if negative then - (valueIn 10 ds : Int) else valueIn 10 ds, rest)
    else some (0, cs)

/-- A floating point number; one above the largest double is refused. -/
def float (negative : Bool) (whole fraction : List Char) (exponent : Int) : Option Setting :=
  match Extended.ofDecimal negative (valueIn 10 (whole ++ fraction)) (exponent - fraction.length) with
  | .infinite false => none
  | x => some (.real x)

/-- A decimal number after its sign. -/
def decimal (negative : Bool) (cs : List Char) : Option (Setting × List Char) :=
  (wholePart cs).bind fun (whole, rest) =>
    (fractionPart rest).bind fun (fraction, behind) =>
      (exponentPart behind).bind fun (exponent, last) =>
        if last.length = rest.length then (signedWord negative (valueIn 10 whole)).map (·, rest)
        else (float negative whole fraction exponent).map (·, last)

/-- A special number after its sign. -/
def special (negative : Bool) : List Char → Option (Setting × List Char)
  | 'i' :: 'n' :: 'f' :: rest => some (.real (.infinite negative), rest)
  | 'n' :: 'a' :: 'n' :: rest => some (.real .nan, rest)
  | _ => none

/-- A number of any kind. -/
def number (cs : List Char) : Option (Setting × List Char) :=
  match cs with
  | '0' :: 'x' :: rest => inBase 16 isHexDigit rest
  | '0' :: 'o' :: rest => inBase 8 isOctalDigit rest
  | '0' :: 'b' :: rest => inBase 2 isBinaryDigit rest
  | '+' :: rest => (special false rest).or (decimal false rest)
  | '-' :: rest => (special true rest).or (decimal true rest)
  | _ => (special false cs).or (decimal false cs)

/-! ## Dates and times -/

/-- Exactly `width` digits, with their value. -/
def fixed (width : Nat) (cs : List Char) : Option (Nat × List Char) :=
  let ds := cs.take width
  if ds.length = width ∧ ds.all Decimal.isDigit then some (valueIn 10 ds, cs.drop width) else none

/-- Two digits up to a limit, after a mark. -/
def marked (mark : Char) (low high : Nat) : List Char → Option (Nat × List Char)
  | c :: rest =>
    if c = mark then (fixed 2 rest).bind fun (n, rest) => if low ≤ n ∧ n ≤ high then some (n, rest) else none
    else none
  | [] => none

def daysIn (year month : Nat) : Nat :=
  if month = 2 then (if year % 4 = 0 ∧ (year % 100 ≠ 0 ∨ year % 400 = 0) then 29 else 28)
  else if month = 4 ∨ month = 6 ∨ month = 9 ∨ month = 11 then 30
  else 31

/-- A date, as its text. -/
def date (cs : List Char) : Option (List Char × List Char) := do
  let (year, rest) ← fixed 4 cs
  let (month, rest) ← marked '-' 1 12 rest
  let (day, rest) ← marked '-' 1 (daysIn year month) rest
  return (Decimal.padded 4 year ++ '-' :: Decimal.padded 2 month ++ '-' :: Decimal.padded 2 day, rest)

/-- Digits without zeros at their end. -/
def trimZeros (ds : List Char) : List Char :=
  (ds.reverse.dropWhile (· == '0')).reverse

/-- The part of a second behind a point, if there is one, to nine digits. -/
def secondPart : List Char → Option (List Char × List Char)
  | '.' :: rest =>
    let ds := rest.takeWhile Decimal.isDigit
    if ds.isEmpty then none
    else
      let kept := trimZeros (ds.take 9)
      some (if kept.isEmpty then [] else '.' :: kept, rest.drop ds.length)
  | cs => some ([], cs)

/-- What a clock shows: the last hour, and the offsets, in hours and minutes, that a time may have. -/
structure Clock where
  lastHour : Nat
  hasOffset : Nat → Nat → Bool

/-- The clock of dates that stand in a document as they are. -/
def Clock.plain : Clock :=
  ⟨23, fun hours minutes => hours ≤ 23 && minutes ≤ 59⟩

/-- The clock of dates that stand in a string: midnight may end a day, and offsets go up to a day. -/
def Clock.quoted : Clock :=
  ⟨24, fun hours minutes => 60 * hours + minutes ≤ 24 * 60⟩

/-- A time, as its text. -/
def time (clock : Clock) (cs : List Char) : Option (List Char × List Char) := do
  let (hour, rest) ← fixed 2 cs
  if clock.lastHour < hour then none
  let (minute, rest) ← marked ':' 0 59 rest
  let (second, rest) ← marked ':' 0 60 rest
  let (part, rest) ← secondPart rest
  return (Decimal.padded 2 hour ++ ':' :: Decimal.padded 2 minute ++ ':' :: Decimal.padded 2 second ++ part, rest)

/-- An offset of so many minutes; none at all is written with a plus. -/
def offsetText (negative : Bool) (minutes : Nat) : List Char :=
  (if negative ∧ minutes ≠ 0 then '-' else '+') :: Decimal.padded 2 (minutes / 60) ++
    ':' :: Decimal.padded 2 (minutes % 60)

/-- The offset behind a time, if there is one. -/
def offset (clock : Clock) (cs : List Char) : Option (List Char × List Char) :=
  match cs with
  | [] => some ([], [])
  | c :: rest =>
    if c = 'Z' ∨ c = 'z' then some (['Z'], rest)
    else if c = '+' ∨ c = '-' then do
      let (hours, rest) ← fixed 2 rest
      let (minutes, rest) ← marked ':' 0 99 rest
      if clock.hasOffset hours minutes then return (offsetText (c = '-') (60 * hours + minutes), rest) else none
    else some ([], cs)

/-- The time behind a date: after `T`, or after one space if a time follows it. -/
def timeOfDay (clock : Clock) (day : List Char) (cs : List Char) : Option (List Char × List Char) :=
  match cs with
  | c :: rest =>
    if c = 'T' ∨ c = 't' ∨ (c = ' ' ∧ (time clock rest).isSome) then do
      let (hours, rest) ← time clock rest
      let (zone, rest) ← offset clock rest
      return (day ++ 'T' :: hours ++ zone, rest)
    else some (day, cs)
  | [] => some (day, [])

/-- A date, a time or both, as text. -/
def dateTime (clock : Clock) (cs : List Char) : Option (List Char × List Char) :=
  ((date cs).bind fun (day, rest) => timeOfDay clock day rest).or (time clock cs)

/-- The text of a date, a time or both that a string holds. -/
def quotedDate (s : String) : Option String :=
  match dateTime .quoted s.toList with
  | some (text, []) => some (String.ofList text)
  | _ => none

/-! ## All of them -/

/-- A value that is no array and no table. -/
inductive Scalar where
  | value (v : Setting)
  | date (text : String)

/-- A string, a truth value, a date or a number. -/
def scalar (cs : List Char) : Option (Scalar × List Char) :=
  match cs with
  | '"' :: _ | '\'' :: _ => (string cs).map fun (s, rest) => (.value (.text s), rest)
  | 't' :: 'r' :: 'u' :: 'e' :: rest => some (.value (.flag true), rest)
  | 'f' :: 'a' :: 'l' :: 's' :: 'e' :: rest => some (.value (.flag false), rest)
  | _ =>
    match dateTime .plain cs with
    | some (text, rest) => some (.date (String.ofList text), rest)
    | none => (number cs).map fun (v, rest) => (.value v, rest)

end Toml
end TaskLifecycle
