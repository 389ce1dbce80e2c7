import TaskLifecycle.Moment.Basic
import TaskLifecycle.Text.Blank
import TaskLifecycle.Text.Decimal

/-!
# TaskLifecycle.Moment.Text — moments as text

A moment is written `YYYY-MM-DDThh:mm:ss` and as many of three, six or nine digits of a second as it needs.  Years before
0 and after 9999 have a sign.  Reading allows blanks before every part but the fraction and at the end, and shorter
numbers; digits of a fraction after the ninth are passed over.

* `Moment.text`, `Moment.read?`: both ways.
-/

namespace TaskLifecycle
namespace Moment

/-! ## Writing -/

/-- Four digits, or a sign and four digits or more. -/
def yearChars (year : Int) : List Char :=
  if year < 0 then '-' :: Decimal.padded 4 year.natAbs
  else if 9999 < year then '+' :: Decimal.padded 4 year.natAbs
  else Decimal.padded 4 year.natAbs

/-- The part of a second, in thousandths, millionths or billionths. -/
def fractionChars (nano : Nat) : List Char :=
  if nano = 0 then []
  else if nano % 1000000 = 0 then '.' :: Decimal.padded 3 (nano / 1000000)
  else if nano % 1000 = 0 then '.' :: Decimal.padded 6 (nano / 1000)
  else '.' :: Decimal.padded 9 nano

def chars (m : Moment) : List Char :=
  yearChars m.year ++ '-' :: Decimal.padded 2 m.month ++ '-' :: Decimal.padded 2 m.day ++
    'T' :: Decimal.padded 2 m.hour ++ ':' :: Decimal.padded 2 m.minute ++ ':' :: Decimal.padded 2 m.second ++
    fractionChars m.nano

def text (m : Moment) : String :=
  String.ofList m.chars

/-! ## Reading -/

/-- The number that digits write. -/
def valueOf (ds : List Char) : Nat :=
  ds.foldl (fun n c => 10 * n + Decimal.digitValue c) 0

/-- The digits at the start of a text, at most `width` of them and at least one. -/
def readDigits (width : Nat) (cs : List Char) : Option (List Char × List Char) :=
  let ds := (cs.take width).takeWhile Decimal.isDigit
  if ds.isEmpty then none else some (ds, cs.drop ds.length)

/-- A number of at most `width` digits, after blanks. -/
def readNumber (width : Nat) (cs : List Char) : Option (Nat × List Char) :=
  (readDigits width (cs.dropWhile Text.isBlank)).map fun (ds, rest) => (valueOf ds, rest)

/-- A year after blanks; behind a sign it may have any number of digits. -/
def readYear (cs : List Char) : Option (Int × List Char) :=
  match cs.dropWhile Text.isBlank with
  | '-' :: rest => (readDigits rest.length rest).map fun (ds, rest) => (- (valueOf ds : Int), rest)
  | '+' :: rest => (readDigits rest.length rest).map fun (ds, rest) => ((valueOf ds : Int), rest)
  | rest => (readDigits 4 rest).map fun (ds, rest) => ((valueOf ds : Int), rest)

/-- What follows a mark, which may have blanks before it. -/
def readMark (mark : Char) (cs : List Char) : Option (List Char) :=
  match cs.dropWhile Text.isBlank with
  | [] => none
  | c :: rest => if c = mark then some rest else none

/-- The part of a second, and what follows it. -/
def readFraction : List Char → Option (Nat × List Char)
  | '.' :: cs =>
    (readDigits 9 cs).map fun (ds, rest) =>
      (valueOf ds * Nat.pow 10 (9 - ds.length), rest.dropWhile Decimal.isDigit)
  | cs => some (0, cs)

/-- The moment that text writes. -/
def readChars (cs : List Char) : Option Moment := do
  let (year, cs) ← readYear cs
  let (month, cs) ← (readMark '-' cs).bind (readNumber 2)
  let (day, cs) ← (readMark '-' cs).bind (readNumber 2)
  let (hour, cs) ← (readMark 'T' cs).bind (readNumber 2)
  let (minute, cs) ← (readMark ':' cs).bind (readNumber 2)
  let (second, cs) ← (readMark ':' cs).bind (readNumber 2)
  let (nano, cs) ← readFraction cs
  if cs.all Text.isBlank then of? year month day hour minute second nano else none

def read? (s : String) : Option Moment :=
  readChars s.toList

end Moment
end TaskLifecycle
