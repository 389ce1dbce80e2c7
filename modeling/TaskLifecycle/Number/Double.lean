/-!
# TaskLifecycle.Number.Double — finite binary floating point numbers of 64 bits

A double is a sign, a whole number below 2^53 and a power of two from -1074 on.  Every operation gives the double nearest
to the exact result, of two equally near ones that with the even mantissa; a result beyond the largest double is none.

* `nearest`: the double of a fraction; `mul?`, `div?`: product and quotient;
* `ofDecimal?`: a decimal number with an exponent, in two roundings.
-/

namespace TaskLifecycle

/-- The number `mantissa * 2 ^ exponent` with a sign. -/
structure Double where
  negative : Bool
  mantissa : Nat
  exponent : Int
deriving DecidableEq, Repr

namespace Double

def zero : Double := ⟨false, 0, -1074⟩

def isZero (x : Double) : Bool :=
  x.mantissa == 0

/-! ## Rounding -/

/-- `num / den` rounded to a whole number, a half to the even one. -/
def divNearest (num den : Nat) : Nat :=
  let q := num / den
  let twice := 2 * (num % den)
  if den < twice ∨ (twice = den ∧ q % 2 = 1) then q + 1 else q

/-- `num / (den * 2 ^ e)` as a fraction. -/
def scaled (num den : Nat) (e : Int) : Nat × Nat :=
  match e with
  | .ofNat k => (num, den * Nat.pow 2 k)
  | .negSucc k => (num * Nat.pow 2 (k + 1), den)

/-- The power of two at which the mantissa of `num / den` has 53 bits, or the least power there is. -/
def binade (num den : Nat) : Int :=
  let e : Int := (num.log2 : Int) - (den.log2 : Int) - 52
  let s := scaled num den e
  max (-1074) (if s.1 / s.2 < Nat.pow 2 52 then e - 1 else e)

/-- The double nearest to `num / den`. -/
def nearest (negative : Bool) (num den : Nat) : Option Double :=
  if num = 0 then some ⟨negative, 0, -1074⟩
  else
    let e := binade num den
    let s := scaled num den e
    let m := divNearest s.1 s.2
    let x : Double := if m = Nat.pow 2 53 then ⟨negative, Nat.pow 2 52, e + 1⟩ else ⟨negative, m, e⟩
    if x.exponent ≤ 971 then some x else none

/-! ## Arithmetic -/

/-- The absolute value as a fraction. -/
def fraction (x : Double) : Nat × Nat :=
  match x.exponent with
  | .ofNat k => (x.mantissa * Nat.pow 2 k, 1)
  | .negSucc k => (x.mantissa, Nat.pow 2 (k + 1))

def mul? (x y : Double) : Option Double :=
  nearest (x.negative != y.negative) (x.fraction.1 * y.fraction.1) (x.fraction.2 * y.fraction.2)

/-- The quotient; there is none by zero. -/
def div? (x y : Double) : Option Double :=
  if y.isZero then none
  else nearest (x.negative != y.negative) (x.fraction.1 * y.fraction.2) (x.fraction.2 * y.fraction.1)

def ofNat (n : Nat) : Option Double :=
  nearest false n 1

/-- The double nearest to a power of ten. -/
def tenTo (k : Nat) : Option Double :=
  ofNat (Nat.pow 10 k)

/-! ## Decimal numbers -/

/-- `x / 10 ^ (308 * n + k)`: a quotient by the double of each power, 308 tens at a time. -/
def shrink (k : Nat) : Nat → Double → Option Double
  | 0, x => (tenTo k).bind x.div?
  | n + 1, x => if x.isZero then some x else ((tenTo 308).bind x.div?).bind (shrink k n)

/-- `digits * 10 ^ power`: the double of the digits times or by the double of the power of ten, so that it is rounded
twice or more often. -/
def ofDecimal? (digits : Nat) (power : Int) : Option Double :=
  (ofNat digits).bind fun x =>
    if x.isZero then some x
    else match power with
      | .ofNat k => if 308 < k then none else (tenTo k).bind x.mul?
      | .negSucc k => shrink (k % 308 + 1) (k / 308) x

/-- `digits * 10 ^ power`, rounded once.  No double is as large as `10 ^ 309`, none but zero as small as `10 ^ -324`. -/
def nearestDecimal? (digits : Nat) (power : Int) : Option Double :=
  if digits = 0 then some zero
  else match power with
    | .ofNat k => if 309 ≤ k then none else nearest false (digits * Nat.pow 10 k) 1
    | .negSucc k => if digits.log2 < 3 * (k - 330) then some zero else nearest false digits (Nat.pow 10 (k + 1))

/-- The value rounded to a whole number, a half away from zero. -/
def round (x : Double) : Int :=
  let n := (2 * x.fraction.1 + x.fraction.2) / (2 * x.fraction.2)
  if x.negative then - (n : Int) else n

end Double
end TaskLifecycle
