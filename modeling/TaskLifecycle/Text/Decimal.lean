/-!
# TaskLifecycle.Text.Decimal — whole numbers in decimal digits

* `digits`: the digits of a number, `text`: as a string;
* `readNatural`, `readInteger`: reading with an upper and a lower limit.  A `+` may precede the digits, a `-` those of an
  integer.  The first character that cannot stand decides what is wrong with a text.
-/

namespace TaskLifecycle
namespace Decimal

/-! ## Writing -/

def digitChar (d : Nat) : Char :=
  Char.ofNat (d + 48)

/-- The digits of a number, without leading zeros. -/
def digits (n : Nat) : List Char :=
  if n < 10 then [digitChar n] else digits (n / 10) ++ [digitChar (n % 10)]

def text (n : Nat) : String :=
  String.ofList (digits n)

/-- The digits of an integer after its sign. -/
def signed (n : Int) : List Char :=
  if n < 0 then '-' :: digits n.natAbs else digits n.natAbs

/-- Digits behind zeros, `width` characters at least. -/
def padded (width n : Nat) : List Char :=
  let ds := digits n
  List.replicate (width - ds.length) '0' ++ ds

/-! ## Reading -/

/-- Why text is not a number in range. -/
inductive Fault where
  | empty
  | notADigit
  | tooLarge
  | tooSmall
deriving DecidableEq

namespace Fault

def message : Fault → String
  | .empty => "cannot parse integer from empty string"
  | .notADigit => "invalid digit found in string"
  | .tooLarge => "number too large to fit in target type"
  | .tooSmall => "number too small to fit in target type"

end Fault

def isDigit (c : Char) : Bool :=
  48 ≤ c.toNat && c.toNat ≤ 57

def digitValue (c : Char) : Nat :=
  c.toNat - 48

/-- The number that digits write after those of `n`, up to `limit`; beyond it they are at fault as `overflow` says. -/
def readDigits (limit : Nat) (overflow : Fault) : Nat → List Char → Except Fault Nat
  | n, [] => .ok n
  | n, c :: rest =>
    if ¬ isDigit c then .error .notADigit
    else if limit < 10 * n + digitValue c then .error overflow
    else readDigits limit overflow (10 * n + digitValue c) rest

/-- Digits, at least one, or one fault. -/
def readSome (limit : Nat) (overflow : Fault) : List Char → Except Fault Nat
  | [] => .error .notADigit
  | cs => readDigits limit overflow 0 cs

/-- The number that text writes, up to `limit`. -/
def readNatural (limit : Nat) : List Char → Except Fault Nat
  | [] => .error .empty
  | '+' :: rest => readSome limit .tooLarge rest
  | cs => readSome limit .tooLarge cs

/-- The integer that text writes, between `-limit - 1` and `limit`. -/
def readInteger (limit : Nat) : List Char → Except Fault Int
  | [] => .error .empty
  | '+' :: rest => (readSome limit .tooLarge rest).map Int.ofNat
  | '-' :: rest => (readSome (limit + 1) .tooSmall rest).map (fun n => - Int.ofNat n)
  | cs => (readSome limit .tooLarge cs).map Int.ofNat

end Decimal
end TaskLifecycle
