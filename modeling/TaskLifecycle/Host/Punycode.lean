/-!
# TaskLifecycle.Host.Punycode — labels with any characters written in ASCII

The ASCII characters of a label come first, then a hyphen, then a number in base 36 for each other character: how far
to advance the pair (character, position) from the one inserted before.

* `encode`, `decode`: the two directions;
* a number's digits weigh by thresholds that follow the size of the numbers seen so far (`adapt`).
-/

namespace TaskLifecycle
namespace Punycode

/-! ## Thresholds and digits -/

/-- The bias after a number `delta`, with `size` characters in place. -/
def adapt (delta size : Nat) (first : Bool) : Nat :=
  let d := if first then delta / 700 else delta / 2
  squeeze 0 (d + d / size)
where
  squeeze (k d : Nat) : Nat :=
    if d > 455 then squeeze (k + 36) (d / 35) else k + 36 * d / (d + 38)
  termination_by d

/-- The threshold of the digit at position `k` (36, 72, …). -/
def threshold (k bias : Nat) : Nat :=
  if k ≤ bias then 1 else if bias + 26 ≤ k then 26 else k - bias

theorem threshold_pos (k bias : Nat) : 1 ≤ threshold k bias := by
  unfold threshold
  split
  · omega
  · split <;> omega

theorem threshold_le (k bias : Nat) : threshold k bias ≤ 26 := by
  unfold threshold
  split
  · omega
  · split <;> omega

def digit (d : Nat) : Char :=
  Char.ofNat (if d < 26 then d + 97 else d + 22)

def digitValue (c : Char) : Option Nat :=
  let n := c.toNat
  if 48 ≤ n ∧ n ≤ 57 then some (n - 22)
  else if 65 ≤ n ∧ n ≤ 90 then some (n - 65)
  else if 97 ≤ n ∧ n ≤ 122 then some (n - 97)
  else none

/-! ## Writing -/

/-- The digits of a number, from position `k` on. -/
def number (bias k q : Nat) : List Char :=
  let t := threshold k bias
  if q < t then [digit q]
  else digit (t + (q - t) % (36 - t)) :: number bias (k + 36) ((q - t) / (36 - t))
termination_by q
decreasing_by
  have h1 := threshold_pos k bias
  have h2 := threshold_le k bias
  have h3 : (q - threshold k bias) / (36 - threshold k bias) ≤ q - threshold k bias := Nat.div_le_self _ _
  omega

/-- One pass over the label for the character number `n`: `done` characters are in place, `delta` is still to be written. -/
def pass (n : Nat) : List Nat → (done bias delta : Nat) → (first : Bool) → List Char × Nat × Nat × Nat × Bool
  | [], done, bias, delta, first => ([], done, bias, delta, first)
  | c :: rest, done, bias, delta, first =>
    if c < n then pass n rest done bias (delta + 1) first
    else if c = n then
      let (out, state) := pass n rest (done + 1) (adapt delta (done + 1) first) 0 false
      (number bias 36 delta ++ out, state)
    else pass n rest done bias delta first

/-- The numbers for the characters `ns`, in ascending order, of the label `label`. -/
def passes (label : List Nat) : List Nat → (last done bias delta : Nat) → (first : Bool) → List Char
  | [], _, _, _, _, _ => []
  | n :: ns, last, done, bias, delta, first =>
    let (out, done, bias, delta, first) := pass n label done bias (delta + (n - last) * (done + 1)) first
    out ++ passes label ns (n + 1) done bias (delta + 1) first

def encode (label : List Char) : List Char :=
  let codes := label.map Char.toNat
  let plain := label.filter (fun c => c.toNat < 128)
  let others := ((codes.filter (128 ≤ ·)).mergeSort (· ≤ ·)).eraseDups
  plain ++ (if plain.isEmpty then [] else ['-']) ++ passes codes others 128 plain.length 72 0 true

/-! ## Reading -/

/-- Reading stands before a number, or inside one: `sum` is what its digits gave, `weight` that of the next digit. -/
structure Reading where
  label : List Char
  code : Nat
  place : Nat
  bias : Nat
  first : Bool
  sum : Nat
  weight : Nat
  position : Nat

/-- One digit further. -/
def Reading.next (r : Reading) (c : Char) : Option Reading := do
  let d ← digitValue c
  let sum := r.sum + d * r.weight
  let t := threshold r.position r.bias
  if d < t then
    let size := r.label.length + 1
    let total := r.place + sum
    let code := r.code + total / size
    if h : code.isValidChar then
      let place := total % size
      some { label := r.label.take place ++ Char.ofNatAux code h :: r.label.drop place, code := code, place := place + 1,
             bias := adapt sum size r.first, first := false, sum := 0, weight := 1, position := 36 }
    else none
  else some { r with sum := sum, weight := r.weight * (36 - t), position := r.position + 36 }

/-- The text before the last hyphen, and what follows it. -/
def splitPlain (cs : List Char) : List Char × List Char :=
  let coded := (cs.reverse.takeWhile (· ≠ '-')).reverse
  ((cs.take (cs.length - coded.length)).dropLast, coded)

/-- The label that its ASCII form writes; what is not ASCII writes none. -/
def decode (cs : List Char) : Option (List Char) := do
  let (plain, coded) := splitPlain cs
  if cs.head? = some '-' ∧ plain.isEmpty ∨ plain.any (fun c => 128 ≤ c.toNat) then none
  let last ← coded.foldlM Reading.next
    { label := plain, code := 128, place := 0, bias := 72, first := true, sum := 0, weight := 1, position := 36 }
  if last.position = 36 ∧ last.weight = 1 then some last.label else none

end Punycode
end TaskLifecycle
