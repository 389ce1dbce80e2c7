import TaskLifecycle.Number.Double
import TaskLifecycle.Text.Decimal

/-!
# TaskLifecycle.Number.Shortest — the shortest decimal text of a double

Of all decimal numbers that read back as a double the shortest is written, of several the nearest, of two equally near
ones the even one.

* `Shortest.ofDouble`: digits and power of ten;
* `Shortest.plain`: written with a point; `Shortest.scientific`: with an exponent where the number is very large or
  very small.
-/

namespace TaskLifecycle

/-- The decimal number `digits * 10 ^ power`. -/
structure Shortest where
  digits : Nat
  power : Int
deriving DecidableEq, Repr

namespace Shortest

/-! ## Digits -/

/-- The values that read back as a double, four times as large, over one denominator: the least, the value itself, the
greatest; and whether the ends are among them. -/
structure Reach where
  low : Nat
  value : Nat
  high : Nat
  den : Nat
  closed : Bool

/-- The reach of `m * 2 ^ e`.  Below a power of two the doubles lie half as far apart. -/
def Reach.ofDouble (x : Double) : Reach :=
  let m := x.mantissa
  let low := if m = Nat.pow 2 52 ∧ x.exponent ≠ -1074 then 4 * m - 1 else 4 * m - 2
  match x.exponent with
  | .ofNat k => ⟨low * Nat.pow 2 k, 4 * m * Nat.pow 2 k, (4 * m + 2) * Nat.pow 2 k, 1, m % 2 = 0⟩
  | .negSucc k => ⟨low, 4 * m, 4 * m + 2, Nat.pow 2 (k + 1), m % 2 = 0⟩

/-- The power of ten of the first digit of `num / den`. -/
def leading (num den : Nat) : Int :=
  if den ≤ num then ((Decimal.digits (num / den)).length : Int) - 1
  else - ((Decimal.digits ((den - 1) / num)).length : Int)

/-- The point `d * 10 ^ p`, four times as large, over the denominator of a reach that is scaled by the second number. -/
def point (r : Reach) (d : Nat) (p : Int) : Nat × Nat :=
  match p with
  | .ofNat k => (4 * d * Nat.pow 10 k * r.den, 1)
  | .negSucc k => (4 * d * r.den, Nat.pow 10 (k + 1))

/-- Whether `d * 10 ^ p` reads back. -/
def reads (r : Reach) (d : Nat) (p : Int) : Bool :=
  let q := point r d p
  if r.closed then decide (r.low * q.2 ≤ q.1 ∧ q.1 ≤ r.high * q.2)
  else decide (r.low * q.2 < q.1 ∧ q.1 < r.high * q.2)

/-- The distance of `d * 10 ^ p` from the value, over the same denominator for every `d`. -/
def distance (r : Reach) (d : Nat) (p : Int) : Nat :=
  let q := point r d p
  (q.1 - r.value * q.2) + (r.value * q.2 - q.1)

/-- The whole number below the value over `10 ^ p`. -/
def below (r : Reach) (p : Int) : Nat :=
  match p with
  | .ofNat k => r.value / (4 * r.den * Nat.pow 10 k)
  | .negSucc k => r.value * Nat.pow 10 (k + 1) / (4 * r.den)

/-- The better of the two neighbours of the value on the grid of `10 ^ p`, if one reads back. -/
def onGrid (r : Reach) (p : Int) : Option Nat :=
  let d := below r p
  match reads r d p, reads r (d + 1) p with
  | false, false => none
  | true, false => some d
  | false, true => some (d + 1)
  | true, true =>
    let a := distance r d p
    let b := distance r (d + 1) p
    if a < b ∨ (a = b ∧ d % 2 = 0) then some d else some (d + 1)

/-- The first grid, from `10 ^ p` on, with a neighbour that reads back. -/
def search (r : Reach) : Nat → Int → Shortest
  | 0, p => ⟨below r p, p⟩
  | fuel + 1, p =>
    match onGrid r p with
    | some d => ⟨d, p⟩
    | none => search r fuel (p - 1)

/-- A number without zeros at its end. -/
def stripped : Nat → Shortest → Shortest
  | 0, s => s
  | fuel + 1, s => if s.digits % 10 = 0 ∧ s.digits ≠ 0 then stripped fuel ⟨s.digits / 10, s.power + 1⟩ else s

/-- The shortest decimal number that reads back as `x`, its sign apart.  Seventeen digits always suffice. -/
def ofDouble (x : Double) : Shortest :=
  if x.isZero then ⟨0, 0⟩
  else stripped 20 (search (Reach.ofDouble x) 17 (leading x.fraction.1 x.fraction.2))

/-! ## Text -/

/-- How many digits stand before the point. -/
def place (s : Shortest) : Int :=
  (Decimal.digits s.digits).length + s.power

/-- Digits with the point where it belongs; `whole` follows a number without a fraction. -/
def plain (whole : List Char) (s : Shortest) : List Char :=
  let ds := Decimal.digits s.digits
  match s.power with
  | .ofNat k => ds ++ List.replicate k '0' ++ whole
  | .negSucc k =>
    if k + 1 < ds.length then ds.take (ds.length - (k + 1)) ++ '.' :: ds.drop (ds.length - (k + 1))
    else '0' :: '.' :: (List.replicate (k + 1 - ds.length) '0' ++ ds)

/-- The sign of an exponent and its digits. -/
def exponentText (e : Int) : List Char :=
  (if e < 0 then '-' else '+') :: Decimal.digits e.natAbs

/-- One digit, the others behind a point, and the exponent. -/
def withExponent (s : Shortest) : List Char :=
  match Decimal.digits s.digits with
  | [] => []
  | d :: ds => d :: ((if ds.isEmpty then [] else '.' :: ds) ++ 'e' :: exponentText (s.place - 1))

/-- Plain from a hundred-thousandth to ten to the sixteenth, otherwise with an exponent. -/
def scientific (s : Shortest) : List Char :=
  if s.digits = 0 ∨ (-5 < s.place ∧ s.place ≤ 16) then s.plain ['.', '0'] else s.withExponent

end Shortest

namespace Double

/-- The sign before a text. -/
def withSign (x : Double) (text : List Char) : List Char :=
  if x.negative then '-' :: text else text

/-- The text with an exponent where the number is very large or very small. -/
def scientific (x : Double) : List Char :=
  x.withSign (Shortest.ofDouble x).scientific

/-- The text without an exponent, a whole number without a point. -/
def plain (x : Double) : List Char :=
  x.withSign ((Shortest.ofDouble x).plain [])

end Double
end TaskLifecycle
