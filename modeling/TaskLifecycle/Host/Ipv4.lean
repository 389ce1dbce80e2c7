import TaskLifecycle.Host.Name

/-!
# TaskLifecycle.Host.Ipv4 — numeric host names

A name whose last part is a number is an address of four bytes: up to four parts, decimal, octal after `0` or
hexadecimal after `0x`, the last of which fills the bytes that the others leave.
-/

namespace TaskLifecycle
namespace Host
namespace Ipv4

/-! ## Parts -/

def digitValue (c : Char) : Option Nat :=
  if '0' ≤ c ∧ c ≤ '9' then some (c.toNat - 48)
  else if 'a' ≤ c ∧ c ≤ 'f' then some (c.toNat - 87)
  else if 'A' ≤ c ∧ c ≤ 'F' then some (c.toNat - 55)
  else none

/-- The number that digits write in a base; no digits write 0. -/
def inBase (base : Nat) (cs : List Char) : Option Nat :=
  cs.foldlM (fun n c => (digitValue c).bind (fun d => if d < base then some (base * n + d) else none)) 0

/-- The number that a part writes. -/
def part : List Char → Option Nat
  | [] => none
  | '0' :: 'x' :: digits => inBase 16 digits
  | '0' :: 'X' :: digits => inBase 16 digits
  | ['0'] => some 0
  | '0' :: digits => inBase 8 digits
  | digits => inBase 10 digits

/-- The parts of a name, a dot at the end aside. -/
def parts (name : List Char) : List (List Char) :=
  let all := splitWhere (· = '.') name
  if all.getLast? = some [] ∧ 2 ≤ all.length then all.dropLast else all

/-- A name whose last part is a number. -/
def looksNumeric (name : List Char) : Bool :=
  match (parts name).getLast? with
  | none => false
  | some last => (!last.isEmpty && last.all (fun c => '0' ≤ c ∧ c ≤ '9' : Char → Bool)) || (part last).isSome

/-! ## Addresses -/

/-- The value of leading bytes with the number that fills the rest. -/
def assemble (leading : List Nat) (last : Nat) : Option Nat :=
  if leading.length ≤ 3 ∧ leading.all (· ≤ 255) ∧ last < Nat.pow 256 (4 - leading.length) then
    some (leading.foldl (fun n b => 256 * n + b) 0 * Nat.pow 256 (4 - leading.length) + last)
  else none

def read (name : List Char) : Option Nat := do
  let numbers ← (parts name).mapM part
  let last ← numbers.getLast?
  assemble numbers.dropLast last

/-- Four decimal bytes between dots. -/
def write (address : Nat) : String :=
  toString (address / Nat.pow 256 3 % 256) ++ "." ++ toString (address / Nat.pow 256 2 % 256) ++ "." ++
    toString (address / 256 % 256) ++ "." ++ toString (address % 256)

end Ipv4
end Host
end TaskLifecycle
