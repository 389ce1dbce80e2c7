import TaskLifecycle.Number.Shortest

/-!
# TaskLifecycle.Number.Extended — floating point numbers with infinities and not-a-number

* `Extended.read?`: the number that text writes, rounded once;
* `Extended.plain`: as text without an exponent; `Extended.toNatural`: as a whole number up to a limit.
-/

namespace TaskLifecycle

inductive Extended where
  | finite (x : Double)
  | infinite (negative : Bool)
  | nan
deriving DecidableEq, Repr

namespace Extended

/-- A decimal number with a sign; one beyond the largest double is infinite. -/
def ofDecimal (negative : Bool) (digits : Nat) (power : Int) : Extended :=
  match Double.nearestDecimal? digits power with
  | some x => .finite { x with negative }
  | none => .infinite negative

/-- The number that digits write. -/
def digitsValue (ds : List Char) : Nat :=
  ds.foldl (fun n c => 10 * n + Decimal.digitValue c) 0

/-- An exponent at the end of a text; none where the text ends. -/
def readExponent : List Char → Option Int
  | [] => some 0
  | c :: rest =>
    if c = 'e' ∨ c = 'E' then
      let negative := rest.head? == some '-'
      let ds := if negative ∨ rest.head? = some '+' then rest.drop 1 else rest
      if ds.isEmpty ∨ ¬ ds.all Decimal.isDigit then none
      else some (if negative then - (digitsValue ds : Int) else digitsValue ds)
    else none

/-- A number after its sign: digits with a point before, among or behind them, and an exponent. -/
def readUnsigned (negative : Bool) (cs : List Char) : Option Extended :=
  let whole := cs.takeWhile Decimal.isDigit
  let rest := cs.drop whole.length
  let fraction := if rest.head? = some '.' then (rest.drop 1).takeWhile Decimal.isDigit else []
  let rest := if rest.head? = some '.' then rest.drop (1 + fraction.length) else rest
  if whole.isEmpty ∧ fraction.isEmpty then none
  else (readExponent rest).map fun e => ofDecimal negative (digitsValue (whole ++ fraction)) (e - fraction.length)

/-- The number that text writes. -/
def read? (cs : List Char) : Option Extended :=
  let negative := cs.head? == some '-'
  let rest := if negative ∨ cs.head? = some '+' then cs.drop 1 else cs
  let word := String.ofList (rest.map Char.toLower)
  if word = "inf" ∨ word = "infinity" then some (.infinite negative)
  else if word = "nan" then some .nan
  else readUnsigned negative rest

def isZero : Extended → Bool
  | .finite x => x.isZero
  | _ => false

/-- The text without an exponent. -/
def plain : Extended → List Char
  | .finite x => x.plain
  | .infinite true => ['-', 'i', 'n', 'f']
  | .infinite false => ['i', 'n', 'f']
  | .nan => ['N', 'a', 'N']

/-- The nearest number from 0 to `limit`, a half rounded up; 0 for what is not a number. -/
def toNatural (limit : Nat) : Extended → Nat
  | .finite x => min limit x.round.toNat
  | .infinite true => 0
  | .infinite false => limit
  | .nan => 0

end Extended
end TaskLifecycle
