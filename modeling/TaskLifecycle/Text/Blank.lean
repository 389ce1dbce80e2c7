/-!
# TaskLifecycle.Text.Blank — blank characters

The characters with the Unicode property White_Space, and text without them at its ends.
-/

namespace TaskLifecycle
namespace Text

/-- The Unicode property White_Space. -/
def isBlank (c : Char) : Bool :=
  let n := c.toNat
  (9 ≤ n && n ≤ 13) || n == 0x20 || n == 0x85 || n == 0xA0 || n == 0x1680 || (0x2000 ≤ n && n ≤ 0x200A) ||
    n == 0x2028 || n == 0x2029 || n == 0x202F || n == 0x205F || n == 0x3000

/-- A list without the elements at its start and end for which `p` holds. -/
def strip (p : Char → Bool) (cs : List Char) : List Char :=
  ((cs.dropWhile p).reverse.dropWhile p).reverse

/-- Text without blank characters at its ends. -/
def trim (s : String) : String :=
  String.ofList (strip isBlank s.toList)

end Text
end TaskLifecycle
