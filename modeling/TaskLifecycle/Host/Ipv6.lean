import TaskLifecycle.Host.Ipv4

/-!
# TaskLifecycle.Host.Ipv6 — host addresses in brackets

Eight pieces of up to four hexadecimal digits between colons; `::` stands once for pieces that are 0; the last two
pieces may be four decimal bytes.  Written with the first of the longest runs of zeros, if longer than one, as `::`.
-/

namespace TaskLifecycle
namespace Host
namespace Ipv6

/-! ## Reading -/

def isHexDigit (c : Char) : Bool :=
  (Ipv4.digitValue c).isSome

/-- A decimal byte without leading zeros. -/
def decimalByte (cs : List Char) : Option Nat := do
  if cs.isEmpty ∨ (cs.head? = some '0' ∧ 2 ≤ cs.length) ∨ 3 < cs.length then none
  let n ← Ipv4.inBase 10 cs
  if n ≤ 255 then some n else none

/-- The two pieces that four decimal bytes fill. -/
def decimalPieces (cs : List Char) : Option (List Nat) :=
  match (splitWhere (· = '.') cs).mapM decimalByte with
  | some [a, b, c, d] => some [256 * a + b, 256 * c + d]
  | _ => none

/-- The pieces that text writes, after `count` pieces, and the place where `::` stands among all of them.  The `::` itself
counts for one piece.  Each step reads a piece and its colon, so `fuel` at the length of the text is enough. -/
def pieces : (fuel : Nat) → List Char → (count : Nat) → (gap : Option Nat) → Option (List Nat × Option Nat)
  | _, [], _, gap => some ([], gap)
  | 0, _ :: _, _, _ => none
  | fuel + 1, c :: rest, count, gap =>
    if count ≥ 8 then none
    else if c = ':' then
      if gap.isSome then none
      else (pieces fuel rest (count + 1) (some (count + 1))).map (fun r => (0 :: r.1, r.2))
    else
      let digits := ((c :: rest).take 4).takeWhile isHexDigit
      let value := (Ipv4.inBase 16 digits).getD 0
      match (c :: rest).drop digits.length with
      | [] => some ([value], gap)
      | '.' :: _ =>
        if digits.isEmpty ∨ 6 < count then none
        else (decimalPieces (c :: rest)).map (fun two => (two, gap))
      | ':' :: after =>
        if after.isEmpty then none
        else (pieces fuel after (count + 1) gap).map (fun r => (value :: r.1, r.2))
      | _ => none

/-- Zeros fill the place of `::`. -/
def spread (found : List Nat) : Option Nat → Option (List Nat)
  | none => if found.length = 8 then some found else none
  | some place =>
    if found.length ≤ 8 then some (found.take place ++ List.replicate (8 - found.length) 0 ++ found.drop place)
    else none

/-- The eight pieces of an address. -/
def read (cs : List Char) : Option (List Nat) :=
  let start : Option (List Char × Bool) :=
    match cs with
    | ':' :: ':' :: rest => some (rest, true)
    | ':' :: _ => none
    | _ => if cs.length < 2 then none else some (cs, false)
  match start with
  | none => none
  | some (rest, true) =>
    (pieces rest.length rest 1 (some 1)).bind (fun r => spread (0 :: r.1) r.2)
  | some (rest, false) =>
    (pieces rest.length rest 0 none).bind (fun r => spread r.1 r.2)

/-! ## Writing -/

def hexChar (d : Nat) : Char :=
  Char.ofNat (if d < 10 then d + 48 else d + 87)

/-- The hexadecimal digits of a number. -/
def hex (n : Nat) : List Char :=
  if n < 16 then [hexChar n] else hex (n / 16) ++ [hexChar (n % 16)]

/-- The number of zeros at the start. -/
def zeros (ps : List Nat) : Nat :=
  (ps.takeWhile (· = 0)).length

/-- Start and length of the first of the longest runs of zeros, looked for from place `at_` on. -/
def longestZeros (at_ : Nat) : List Nat → Nat × Nat
  | [] => (at_, 0)
  | p :: ps =>
    let here := zeros (p :: ps)
    let later := longestZeros (at_ + 1) ps
    if here = 0 ∨ here < later.2 then later else (at_, here)

def write (ps : List Nat) : List Char :=
  let (start, size) := longestZeros 0 ps
  let text (qs : List Nat) := joinWith [':'] (qs.map hex)
  let body := if size < 2 then text ps else text (ps.take start) ++ [':', ':'] ++ text (ps.drop (start + size))
  '[' :: body ++ [']']

end Ipv6
end Host
end TaskLifecycle
