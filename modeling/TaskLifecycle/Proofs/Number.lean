import Mathlib.Data.List.TakeWhile
import TaskLifecycle.Number.Extended
import TaskLifecycle.Proofs.Decimal

/-!
# TaskLifecycle.Proofs.Number — large whole numbers as doubles

Rounding moves a large whole number, but not far.

* `Double.le_round_of_nearest`: a whole number from 2^52 on is rounded to one from 2^52 on.
* `Extended.toNatural_negative`, `Extended.le_toNatural`: below zero it counts as zero; a large one stays large.
* `Extended.read?_of_digits`: the double that is read from the digits of a number and its sign.
-/

namespace TaskLifecycle

/-! ## Rounding -/

namespace Double

variable {n : Nat} {x : Double}

theorem pow_mul_le_of_le (h : Nat.pow 2 52 ≤ n) : Nat.pow 2 52 * Nat.pow 2 (n.log2 - 52) ≤ n := by
  have hn : n ≠ 0 := fun hn => absurd (hn ▸ h) (by decide)
  have hlog : 52 ≤ n.log2 := (Nat.le_log2 hn).mpr h
  calc Nat.pow 2 52 * Nat.pow 2 (n.log2 - 52) = Nat.pow 2 (52 + (n.log2 - 52)) := (Nat.pow_add 2 _ _).symm
    _ = Nat.pow 2 n.log2 := by rw [Nat.add_sub_cancel' hlog]
    _ ≤ n := Nat.log2_self_le hn

/-- So many bits of a large whole number fit into a mantissa that it has its first bit there. -/
theorem le_div_pow (h : Nat.pow 2 52 ≤ n) : Nat.pow 2 52 ≤ n / (1 * Nat.pow 2 (n.log2 - 52)) := by
  have hpos : 0 < Nat.pow 2 (n.log2 - 52) := Nat.two_pow_pos _
  rw [Nat.one_mul, Nat.le_div_iff_mul_le hpos]
  exact pow_mul_le_of_le h

theorem scaled_ofNat (num den k : Nat) : scaled num den (k : Int) = (num, den * Nat.pow 2 k) := rfl

/-- The mantissa of a large whole number has its first bit where that of the number is. -/
theorem binade_of_le (h : Nat.pow 2 52 ≤ n) : binade n 1 = ((n.log2 - 52 : Nat) : Int) := by
  have hn : n ≠ 0 := fun hn => absurd (hn ▸ h) (by decide)
  have hlog : 52 ≤ n.log2 := (Nat.le_log2 hn).mpr h
  have he : (n.log2 : Int) - ((1 : Nat).log2 : Int) - 52 = ((n.log2 - 52 : Nat) : Int) := by
    have hone : (1 : Nat).log2 = 0 := by decide
    omega
  simp only [binade, he, scaled_ofNat, if_neg (Nat.not_lt.mpr (le_div_pow h))]
  omega

theorem le_divNearest (num den : Nat) : num / den ≤ divNearest num den := by
  simp only [divNearest]
  split
  · exact Nat.le_succ _
  · exact Nat.le_refl _

theorem round_ofNat (m k : Nat) : round ⟨false, m, (k : Int)⟩ = (m * Nat.pow 2 k : Nat) := by
  have hfraction : fraction ⟨false, m, (k : Int)⟩ = (m * Nat.pow 2 k, 1) := rfl
  simp only [round, hfraction]
  rw [if_neg (by decide)]
  omega

/-- A whole number from 2^52 on is rounded to one from 2^52 on. -/
theorem le_round_of_nearest (h : Nat.pow 2 52 ≤ n) (hx : nearest false n 1 = some x) : (Nat.pow 2 52 : Nat) ≤ x.round := by
  have hn : n ≠ 0 := fun hn => absurd (hn ▸ h) (by decide)
  have hmantissa : Nat.pow 2 52 ≤ divNearest n (1 * Nat.pow 2 (n.log2 - 52)) :=
    Nat.le_trans (le_div_pow h) (le_divNearest _ _)
  have hround (m k : Nat) (hm : Nat.pow 2 52 ≤ m) : (Nat.pow 2 52 : Nat) ≤ round ⟨false, m, (k : Int)⟩ := by
    rw [round_ofNat]
    exact Int.ofNat_le.mpr (Nat.le_trans hm (Nat.le_mul_of_pos_right _ (Nat.two_pow_pos k)))
  simp only [nearest, if_neg hn, binade_of_le h, scaled_ofNat] at hx
  -- rounding may carry the mantissa to the next power of two
  by_cases hcarry : divNearest n (1 * Nat.pow 2 (n.log2 - 52)) = Nat.pow 2 53
  · simp only [if_pos hcarry] at hx
    obtain ⟨-, hsome⟩ := Option.ite_none_right_eq_some.mp hx
    obtain rfl := Option.some.inj hsome
    exact hround (Nat.pow 2 52) (n.log2 - 52 + 1) (Nat.le_refl _)
  · simp only [if_neg hcarry] at hx
    obtain ⟨-, hsome⟩ := Option.ite_none_right_eq_some.mp hx
    obtain rfl := Option.some.inj hsome
    exact hround _ _ hmantissa

/-- Rounding keeps the sign. -/
theorem negative_of_nearest {negative : Bool} {num den : Nat} (hx : nearest negative num den = some x) :
    x.negative = negative := by
  unfold nearest at hx
  split at hx
  · obtain rfl := Option.some.inj hx
    rfl
  · obtain ⟨-, hsome⟩ := Option.ite_none_right_eq_some.mp hx
    rw [← Option.some.inj hsome]
    split <;> rfl

end Double

/-! ## Integers read as doubles -/

namespace Extended

variable {n : Nat} {cs ds : List Char}

theorem digitsValue_eq_value (ds : List Char) : digitsValue ds = Decimal.value ds := rfl

/-- Below zero a number counts as zero. -/
theorem toNatural_negative (digits limit : Nat) (power : Int) : (ofDecimal true digits power).toNatural limit = 0 := by
  unfold ofDecimal
  split
  · rename_i x _
    have hround : ({ x with negative := true } : Double).round ≤ 0 := by
      rw [Double.round, if_pos rfl]
      exact Int.neg_nonpos_of_nonneg (Int.natCast_nonneg _)
    rw [toNatural, Int.toNat_of_nonpos hround, Nat.min_zero]
  · rfl

/-- A large whole number counts as one from 2^52 on. -/
theorem le_toNatural {limit : Nat} (hn : Nat.pow 2 52 ≤ n) (hlimit : Nat.pow 2 52 ≤ limit) :
    Nat.pow 2 52 ≤ (ofDecimal false n 0).toNatural limit := by
  have hzero : n ≠ 0 := fun hzero => absurd (hzero ▸ hn) (by decide)
  have hnearest : Double.nearestDecimal? n 0 = Double.nearest false n 1 := by
    have hdecimal : Double.nearestDecimal? n 0 = Double.nearest false (n * 1) 1 := if_neg hzero
    rw [hdecimal, Nat.mul_one]
  unfold ofDecimal
  rw [hnearest]
  cases hx : Double.nearest false n 1 with
  | none => exact hlimit
  | some x =>
    have hsign : ({ x with negative := false } : Double) = x := by rw [← Double.negative_of_nearest hx]
    have hround := Double.le_round_of_nearest hn hx
    simp only [hsign, toNatural]
    omega

/-- Digits without anything behind them are read as they are. -/
theorem readUnsigned_of_digits (negative : Bool) (hsome : ds ≠ []) (hall : ∀ c ∈ ds, Decimal.isDigit c = true) :
    readUnsigned negative ds = some (ofDecimal negative (Decimal.value ds) 0) := by
  have htake : ds.takeWhile Decimal.isDigit = ds := List.takeWhile_eq_self_iff.mpr hall
  have hempty : ds.isEmpty = false := by
    rw [Bool.eq_false_iff]
    exact fun h => hsome (List.isEmpty_iff.mp h)
  simp only [readUnsigned, htake, List.drop_length, List.head?_nil, reduceCtorEq, if_false, hempty, Bool.false_eq_true,
    false_and, readExponent, Option.map_some, List.append_nil, digitsValue_eq_value, List.length_nil]
  rfl

/-- Digits are none of the words for special numbers. -/
theorem read?_of_digits (hsome : ds ≠ []) (hall : ∀ c ∈ ds, Decimal.isDigit c = true) :
    read? ds = some (ofDecimal false (Decimal.value ds) 0) ∧ read? ('+' :: ds) = some (ofDecimal false (Decimal.value ds) 0) ∧
      read? ('-' :: ds) = some (ofDecimal true (Decimal.value ds) 0) := by
  obtain ⟨c, rest, rfl⟩ := List.exists_cons_of_ne_nil hsome
  have hc := hall c List.mem_cons_self
  have hword (w : String) (first : Char) (hw : w.toList.head? = some first) (hfirst : Decimal.isDigit first = false) :
      String.ofList ((c :: rest).map Char.toLower) ≠ w := by
    rintro rfl
    rw [String.toList_ofList, List.map_cons, List.head?_cons, Option.some.injEq, Decimal.toLower_of_isDigit hc] at hw
    rw [← hw, hc] at hfirst
    cases hfirst
  have hinf := hword "inf" 'i' (by decide) (by decide)
  have hinfinity := hword "infinity" 'i' (by decide) (by decide)
  have hnan := hword "nan" 'n' (by decide) (by decide)
  have hminus : c ≠ '-' := by
    rintro rfl
    exact absurd hc (by decide)
  have hplus : c ≠ '+' := by
    rintro rfl
    exact absurd hc (by decide)
  refine ⟨?_, ?_, ?_⟩
  · simp only [read?, List.head?_cons, Option.some_beq_some, beq_iff_eq, hminus, Option.some.injEq, hplus, or_self, if_false,
      hinf, hinfinity, hnan]
    rw [readUnsigned_of_digits _ hsome hall, beq_false_of_ne hminus]
  · simp only [read?, List.head?_cons, Option.some_beq_some, or_true, if_true, List.drop_one, List.tail_cons, hinf,
      hinfinity, hnan, or_self, if_false]
    exact readUnsigned_of_digits _ hsome hall
  · simp only [read?, List.head?_cons, beq_self_eq_true, true_or, if_true, List.drop_one,
      List.tail_cons, hinf, hinfinity, hnan, or_self, if_false]
    exact readUnsigned_of_digits _ hsome hall

end Extended
end TaskLifecycle
