/-!
# TaskLifecycle.Url.Percent — bytes written as `%` and two digits

Each part of a URL has its own set of characters that it cannot hold as they are; their UTF-8 bytes are written in
hexadecimal.  What is already so written stays as it is.
-/

namespace TaskLifecycle
namespace Url
namespace Percent

/-! ## Sets -/

/-- Characters that no part holds: controls, and all outside ASCII. -/
def always (c : Char) : Bool :=
  c.toNat < 32 || 126 < c.toNat

/-- What a fragment cannot hold. -/
def inFragment (c : Char) : Bool :=
  always c || [' ', '"', '<', '>', '\x60'].contains c

/-- What a path cannot hold. -/
def inPath (c : Char) : Bool :=
  inFragment c || ['#', '?', '\x7b', '\x7d'].contains c

/-- What a user name or password cannot hold. -/
def inUser (c : Char) : Bool :=
  inPath c || ['/', ':', ';', '=', '@', '[', '\\', ']', '^', '|'].contains c

/-- What a query cannot hold. -/
def inQuery (c : Char) : Bool :=
  always c || [' ', '"', '#', '<', '>', '\''].contains c

/-! ## Writing and reading -/

def hexDigit (d : Nat) : Char :=
  Char.ofNat (if d < 10 then d + 48 else d + 55)

def byte (b : UInt8) : List Char :=
  ['%', hexDigit (b.toNat / 16), hexDigit (b.toNat % 16)]

/-- Text with the characters of a set written as bytes. -/
def encode (set : Char → Bool) (cs : List Char) : List Char :=
  cs.flatMap (fun c => if set c then (String.utf8EncodeChar c).flatMap byte else [c])

def hexValue (c : Char) : Option Nat :=
  if '0' ≤ c ∧ c ≤ '9' then some (c.toNat - 48)
  else if 'a' ≤ c ∧ c ≤ 'f' then some (c.toNat - 87)
  else if 'A' ≤ c ∧ c ≤ 'F' then some (c.toNat - 55)
  else none

/-- The bytes of a text; a `%` that no two digits follow is itself. -/
def bytes : List Char → List UInt8
  | [] => []
  | '%' :: a :: b :: rest =>
    match hexValue a, hexValue b with
    | some x, some y => (16 * x + y).toUInt8 :: bytes rest
    | _, _ => 37 :: bytes (a :: b :: rest)
  | c :: rest => String.utf8EncodeChar c ++ bytes rest

/-- The text that bytes written as `%` and two digits stand for, if they are UTF-8. -/
def decode (cs : List Char) : Option (List Char) :=
  (String.fromUTF8? ⟨(bytes cs).toArray⟩).map String.toList

end Percent
end Url
end TaskLifecycle
