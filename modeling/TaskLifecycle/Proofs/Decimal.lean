import TaskLifecycle.Text.Decimal

/-!
# TaskLifecycle.Proofs.Decimal — digits determine the number they write

* `Decimal.value`: the number that digits write; `value_digits`: the digits of a number write it.
* `text_injective`: so numbers with one text are equal.
* `value_padded`, `length_padded`: zeros in front do not change the number, and fill the width where it suffices.
* `Writes`, `WritesNat`: an integer, or a number without a sign, that text writes; `readSome_eq_ok_iff`,
  `readInteger_eq_ok_iff`, `readNatural_eq_ok_iff`: reading finds it if it is in range; `Writes.unique`: there is one.
-/

namespace TaskLifecycle
namespace Decimal

theorem toNat_digitChar {d : Nat} (h : d < 10) : (digitChar d).toNat = d + 48 := by
  have hv : (d + 48).isValidChar := .inl (by omega)
  rw [digitChar, Char.ofNat, dif_pos hv]
  rfl

@[simp] theorem digitValue_digitChar {d : Nat} (h : d < 10) : digitValue (digitChar d) = d := by
  unfold digitValue
  rw [toNat_digitChar h]
  omega

/-- The number that digits write. -/
def value (cs : List Char) : Nat :=
  cs.foldl (fun n c => 10 * n + digitValue c) 0

theorem value_concat (cs : List Char) (c : Char) : value (cs ++ [c]) = 10 * value cs + digitValue c := by
  simp [value]

/-- The digits of a number write it. -/
theorem value_digits (n : Nat) : value (digits n) = n := by
  induction n using digits.induct with
  | case1 n h =>
    rw [digits, if_pos h]
    simp [value, h]
  | case2 n h ih =>
    rw [digits, if_neg h, value_concat, ih, digitValue_digitChar (Nat.mod_lt _ (by decide))]
    omega

theorem digits_injective {n m : Nat} (h : digits n = digits m) : n = m := by
  rw [← value_digits n, h, value_digits]

theorem text_injective {n m : Nat} (h : text n = text m) : n = m :=
  digits_injective (String.ofList_injective h)

/-! ## The characters -/

theorem isDigit_digitChar {d : Nat} (h : d < 10) : isDigit (digitChar d) = true := by
  simp only [isDigit, toNat_digitChar h, Bool.and_eq_true, decide_eq_true_eq]
  omega

/-- A digit is no letter, so lower case leaves it. -/
theorem toLower_of_isDigit {c : Char} (h : isDigit c = true) : c.toLower = c := by
  simp only [isDigit, Bool.and_eq_true, decide_eq_true_eq] at h
  have hupper : ¬ (c.val ≥ 'A'.val ∧ c.val ≤ 'Z'.val) := by
    intro hupper
    have hlow : 65 ≤ c.toNat := hupper.1
    omega
  exact dif_neg hupper

theorem isDigit_of_mem_digits (n : Nat) : ∀ c ∈ digits n, isDigit c = true := by
  induction n using digits.induct with
  | case1 n hn =>
    intro c hc
    rw [digits, if_pos hn, List.mem_singleton] at hc
    rw [hc]
    exact isDigit_digitChar hn
  | case2 n hn ih =>
    intro c hc
    rw [digits, if_neg hn, List.mem_append, List.mem_singleton] at hc
    rcases hc with hc | rfl
    · exact ih c hc
    · exact isDigit_digitChar (Nat.mod_lt _ (by decide))

theorem digits_ne_nil (n : Nat) : digits n ≠ [] := by
  rw [digits]
  split
  · exact List.cons_ne_nil _ _
  · exact List.append_ne_nil_of_right_ne_nil _ (List.cons_ne_nil _ _)

/-- A number below a power of ten has no more digits than its exponent says. -/
theorem length_digits_le {n k : Nat} (h : n < Nat.pow 10 k) (hk : 0 < k) : (digits n).length ≤ k := by
  induction n using digits.induct generalizing k with
  | case1 n hn =>
    rw [digits, if_pos hn]
    exact hk
  | case2 n hn ih =>
    obtain ⟨j, rfl⟩ : ∃ j, k = j + 1 := ⟨k - 1, by omega⟩
    have hpow : Nat.pow 10 (j + 1) = Nat.pow 10 j * 10 := rfl
    have hj : 0 < j := by
      rcases Nat.eq_zero_or_pos j with rfl | hj
      · have hone : Nat.pow 10 0 = 1 := rfl
        omega
      · exact hj
    have htail : (digits (n / 10)).length ≤ j := ih (by omega) hj
    rw [digits, if_neg hn, List.length_append, List.length_singleton]
    omega

/-! ## Zeros in front -/

theorem isDigit_of_mem_padded {width n : Nat} {c : Char} (h : c ∈ padded width n) : isDigit c = true := by
  rcases List.mem_append.mp h with h | h
  · rw [List.eq_of_mem_replicate h]
    rfl
  · exact isDigit_of_mem_digits n c h

theorem padded_ne_nil (width n : Nat) : padded width n ≠ [] :=
  List.append_ne_nil_of_right_ne_nil _ (digits_ne_nil n)

theorem value_zeros_append (k : Nat) (cs : List Char) : value (List.replicate k '0' ++ cs) = value cs := by
  induction k with
  | zero => rfl
  | succ k ih => exact ih

/-- Zeros in front leave the number as it is. -/
theorem value_padded (width n : Nat) : value (padded width n) = n := by
  rw [padded, value_zeros_append, value_digits]

/-- A number that fits is padded to the width exactly. -/
theorem length_padded {width n : Nat} (h : n < Nat.pow 10 width) (hwidth : 0 < width) :
    (padded width n).length = width := by
  have hle := length_digits_le h hwidth
  rw [padded, List.length_append, List.length_replicate]
  omega

/-! ## Reading -/

/-- The number that digits write behind those of `n`. -/
def valueBehind (n : Nat) (cs : List Char) : Nat :=
  cs.foldl (fun n c => 10 * n + digitValue c) n

theorem le_valueBehind (n : Nat) (cs : List Char) : n ≤ valueBehind n cs := by
  induction cs generalizing n with
  | nil => exact Nat.le_refl n
  | cons c rest ih =>
    have hrest := ih (10 * n + digitValue c)
    simp only [valueBehind, List.foldl_cons] at hrest ⊢
    omega

/-- Digits are read where the number stays within the limit. -/
theorem readDigits_eq_ok_iff {limit n m : Nat} {overflow : Fault} {cs : List Char} (h : n ≤ limit) :
    readDigits limit overflow n cs = .ok m ↔
      (∀ c ∈ cs, isDigit c = true) ∧ valueBehind n cs = m ∧ m ≤ limit := by
  induction cs generalizing n with
  | nil =>
    simp only [readDigits, Except.ok.injEq, valueBehind, List.foldl_nil]
    constructor
    · rintro rfl
      exact ⟨by simp, rfl, h⟩
    · exact fun hm => hm.2.1
  | cons c rest ih =>
    have hstep : valueBehind n (c :: rest) = valueBehind (10 * n + digitValue c) rest := rfl
    have hle := le_valueBehind (10 * n + digitValue c) rest
    by_cases hc : isDigit c = true
    · by_cases hover : limit < 10 * n + digitValue c
      · rw [readDigits, if_neg (not_not_intro hc), if_pos hover]
        constructor
        · intro herror
          cases herror
        · rintro ⟨-, rfl, hm⟩
          omega
      · rw [readDigits, if_neg (not_not_intro hc), if_neg hover, ih (by omega), List.forall_mem_cons, hstep]
        exact ⟨fun hm => ⟨⟨hc, hm.1⟩, hm.2⟩, fun hm => ⟨hm.1.2, hm.2⟩⟩
    · rw [readDigits, if_pos hc]
      constructor
      · intro herror
        cases herror
      · exact fun hm => absurd (hm.1 c List.mem_cons_self) hc

/-- Digits, at least one, are read where their number is within the limit. -/
theorem readSome_eq_ok_iff {limit m : Nat} {overflow : Fault} {cs : List Char} :
    readSome limit overflow cs = .ok m ↔
      cs ≠ [] ∧ (∀ c ∈ cs, isDigit c = true) ∧ value cs = m ∧ m ≤ limit := by
  cases cs with
  | nil => simp [readSome]
  | cons c rest =>
    rw [readSome, readDigits_eq_ok_iff (Nat.zero_le limit)]
    · simp [value, valueBehind]
    · simp

/-- The integer that text writes: digits, at least one, behind a sign or none. -/
inductive Writes : List Char → Int → Prop where
  | digits {ds : List Char} (some : ds ≠ []) (all : ∀ c ∈ ds, isDigit c = true) : Writes ds (value ds)
  | plus {ds : List Char} (some : ds ≠ []) (all : ∀ c ∈ ds, isDigit c = true) : Writes ('+' :: ds) (value ds)
  | minus {ds : List Char} (some : ds ≠ []) (all : ∀ c ∈ ds, isDigit c = true) : Writes ('-' :: ds) (-(value ds : Int))

theorem map_eq_ok_iff {f : Nat → Int} {r : Except Fault Nat} {n : Int} : r.map f = .ok n ↔ ∃ m, r = .ok m ∧ f m = n := by
  cases r <;> simp [Except.map]

/-- Digits without a sign are read as they are. -/
theorem readInteger_of_digits (limit : Nat) {ds : List Char} (hsome : ds ≠ []) (hall : ∀ c ∈ ds, isDigit c = true) :
    readInteger limit ds = (readSome limit .tooLarge ds).map Int.ofNat := by
  unfold readInteger
  split
  · exact absurd rfl hsome
  · exact absurd (hall '+' List.mem_cons_self) (by decide)
  · exact absurd (hall '-' List.mem_cons_self) (by decide)
  · rfl

/-- An integer is read from text that writes it, if it is in range. -/
theorem readInteger_eq_ok_iff {limit : Nat} {cs : List Char} {n : Int} :
    readInteger limit cs = .ok n ↔ Writes cs n ∧ -(limit : Int) - 1 ≤ n ∧ n ≤ limit := by
  constructor
  · intro h
    unfold readInteger at h
    split at h
    · cases h
    · obtain ⟨m, hm, rfl⟩ := map_eq_ok_iff.mp h
      obtain ⟨hsome, hall, rfl, hle⟩ := readSome_eq_ok_iff.mp hm
      rw [Int.ofNat_eq_natCast]
      exact ⟨.plus hsome hall, by omega, by omega⟩
    · obtain ⟨m, hm, rfl⟩ := map_eq_ok_iff.mp h
      obtain ⟨hsome, hall, rfl, hle⟩ := readSome_eq_ok_iff.mp hm
      rw [Int.ofNat_eq_natCast]
      exact ⟨.minus hsome hall, by omega, by omega⟩
    · obtain ⟨m, hm, rfl⟩ := map_eq_ok_iff.mp h
      obtain ⟨hsome, hall, rfl, hle⟩ := readSome_eq_ok_iff.mp hm
      rw [Int.ofNat_eq_natCast]
      exact ⟨.digits hsome hall, by omega, by omega⟩
  · rintro ⟨hwrites, hlow, hhigh⟩
    cases hwrites with
    | digits hsome hall =>
      rw [readInteger_of_digits limit hsome hall]
      exact map_eq_ok_iff.mpr ⟨_, readSome_eq_ok_iff.mpr ⟨hsome, hall, rfl, by omega⟩, rfl⟩
    | plus hsome hall => exact map_eq_ok_iff.mpr ⟨_, readSome_eq_ok_iff.mpr ⟨hsome, hall, rfl, by omega⟩, rfl⟩
    | minus hsome hall => exact map_eq_ok_iff.mpr ⟨_, readSome_eq_ok_iff.mpr ⟨hsome, hall, rfl, by omega⟩, rfl⟩

/-- Text writes one integer. -/
theorem Writes.unique {cs : List Char} {n m : Int} (hn : Writes cs n) (hm : Writes cs m) : n = m := by
  have hread {k : Int} (hk : Writes cs k) (hle : k.natAbs ≤ n.natAbs + m.natAbs) :
      readInteger (n.natAbs + m.natAbs) cs = .ok k :=
    readInteger_eq_ok_iff.mpr ⟨hk, by omega, by omega⟩
  exact Except.ok.inj ((hread hn (Nat.le_add_right _ _)).symm.trans (hread hm (Nat.le_add_left _ _)))

/-! ## Numbers without a minus -/

/-- The number that text writes: digits, at least one, behind a plus or nothing. -/
inductive WritesNat : List Char → Nat → Prop where
  | digits {ds : List Char} (some : ds ≠ []) (all : ∀ c ∈ ds, isDigit c = true) : WritesNat ds (value ds)
  | plus {ds : List Char} (some : ds ≠ []) (all : ∀ c ∈ ds, isDigit c = true) : WritesNat ('+' :: ds) (value ds)

theorem writesNat_digits (n : Nat) : WritesNat (digits n) n := by
  have h := WritesNat.digits (digits_ne_nil n) (isDigit_of_mem_digits n)
  rwa [value_digits] at h

/-- Digits without a sign are read as they are. -/
theorem readNatural_of_digits (limit : Nat) {ds : List Char} (hsome : ds ≠ []) (hall : ∀ c ∈ ds, isDigit c = true) :
    readNatural limit ds = readSome limit .tooLarge ds := by
  unfold readNatural
  split
  · exact absurd rfl hsome
  · exact absurd (hall '+' List.mem_cons_self) (by decide)
  · rfl

/-- A number is read from text that writes it, if it is in range. -/
theorem readNatural_eq_ok_iff {limit n : Nat} {cs : List Char} :
    readNatural limit cs = .ok n ↔ WritesNat cs n ∧ n ≤ limit := by
  constructor
  · intro h
    unfold readNatural at h
    split at h
    · cases h
    · obtain ⟨hsome, hall, rfl, hle⟩ := readSome_eq_ok_iff.mp h
      exact ⟨.plus hsome hall, hle⟩
    · obtain ⟨hsome, hall, rfl, hle⟩ := readSome_eq_ok_iff.mp h
      exact ⟨.digits hsome hall, hle⟩
  · rintro ⟨hwrites, hle⟩
    cases hwrites with
    | digits hsome hall =>
      rw [readNatural_of_digits limit hsome hall]
      exact readSome_eq_ok_iff.mpr ⟨hsome, hall, rfl, hle⟩
    | plus hsome hall => exact readSome_eq_ok_iff.mpr ⟨hsome, hall, rfl, hle⟩

end Decimal
end TaskLifecycle
