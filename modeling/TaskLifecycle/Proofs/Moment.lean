import TaskLifecycle.Moment.Text
import TaskLifecycle.Proofs.Decimal

/-!
# TaskLifecycle.Proofs.Moment — the text of a moment reads as that moment

* `readDigits_append`: digits are read up to the width or up to a character that is no digit;
* `readNumber_padded`, `readYear_append`, `readFraction_fractionChars`: the parts;
* `read?_text`: the whole, with leap seconds, years of more than four digits and years before 0.
-/

namespace TaskLifecycle
namespace Moment

variable {width n : Nat} {ds rest : List Char}

/-! ## Digits -/

theorem isBlank_of_isDigit {c : Char} (h : Decimal.isDigit c = true) : Text.isBlank c = false := by
  simp only [Decimal.isDigit, Bool.and_eq_true, decide_eq_true_eq] at h
  simp only [Text.isBlank, Bool.or_eq_false_iff, Bool.and_eq_false_iff, decide_eq_false_iff_not, beq_eq_false_iff_ne]
  omega

/-- Digits are read together where they fill the width or a character that is no digit follows. -/
theorem readDigits_append (hds : ∀ c ∈ ds, Decimal.isDigit c = true) (hne : ds ≠ []) (hwidth : ds.length ≤ width)
    (hstop : ds.length = width ∨ ∀ c ∈ rest.head?, Decimal.isDigit c = false) :
    readDigits width (ds ++ rest) = some (ds, rest) := by
  have hrest : (rest.take (width - ds.length)).takeWhile Decimal.isDigit = [] := by
    rcases hstop with hfull | hother
    · rw [hfull, Nat.sub_self]
      rfl
    · cases rest with
      | nil => rw [List.take_nil]; rfl
      | cons c rest =>
        have hc := hother c rfl
        cases width - ds.length with
        | zero => rfl
        | succ k => rw [List.take_succ_cons, List.takeWhile_cons, hc]; rfl
  have htake : ((ds ++ rest).take width).takeWhile Decimal.isDigit = ds := by
    rw [List.take_append, List.take_of_length_le hwidth, List.takeWhile_append_of_pos hds, hrest, List.append_nil]
  have hempty : ds.isEmpty = false := by
    rw [List.isEmpty_eq_false_iff]
    exact hne
  simp only [readDigits, htake, hempty, List.drop_left, Bool.false_eq_true, if_false]

theorem readDigits_padded {k : Nat} (hwidth : (Decimal.padded k n).length ≤ width)
    (hstop : (Decimal.padded k n).length = width ∨ ∀ c ∈ rest.head?, Decimal.isDigit c = false) :
    readDigits width (Decimal.padded k n ++ rest) = some (Decimal.padded k n, rest) :=
  readDigits_append (fun _ => Decimal.isDigit_of_mem_padded) (Decimal.padded_ne_nil k n) hwidth hstop

/-- A number in digits starts with a digit. -/
theorem exists_padded_append (width n : Nat) (rest : List Char) :
    ∃ c cs, Decimal.padded width n ++ rest = c :: cs ∧ Decimal.isDigit c = true := by
  cases h : Decimal.padded width n with
  | nil => exact absurd h (Decimal.padded_ne_nil width n)
  | cons c cs => exact ⟨c, cs ++ rest, rfl, Decimal.isDigit_of_mem_padded (h ▸ List.mem_cons_self)⟩

theorem valueOf_padded (width n : Nat) : valueOf (Decimal.padded width n) = n :=
  Decimal.value_padded width n

/-! ## The parts -/

theorem readNumber_padded (h : n < Nat.pow 10 width) (hwidth : 0 < width) (rest : List Char) :
    readNumber width (Decimal.padded width n ++ rest) = some (n, rest) := by
  have hlength := Decimal.length_padded h hwidth
  have hblank : (Decimal.padded width n ++ rest).dropWhile Text.isBlank = Decimal.padded width n ++ rest := by
    obtain ⟨c, cs, hcs, hc⟩ := exists_padded_append width n rest
    rw [hcs, List.dropWhile_cons, isBlank_of_isDigit hc]
    rfl
  simp only [readNumber, hblank, readDigits_padded (Nat.le_of_eq hlength) (.inl hlength), Option.map_some,
    valueOf_padded]

theorem readMark_cons {mark : Char} (h : Text.isBlank mark = false) (rest : List Char) :
    readMark mark (mark :: rest) = some rest := by
  simp [readMark, h]

/-- A mark and two digits. -/
theorem readPart_append {mark : Char} (hmark : Text.isBlank mark = false) (h : n < 100) (rest : List Char) :
    (readMark mark (mark :: (Decimal.padded 2 n ++ rest))).bind (readNumber 2) = some (n, rest) := by
  rw [readMark_cons hmark, Option.bind_some]
  exact readNumber_padded h (by decide) rest

/-- Without a sign a year is a number of four digits. -/
theorem readYear_of_isDigit {c : Char} (hc : Decimal.isDigit c = true) (cs : List Char) :
    readYear (c :: cs) = (readNumber 4 (c :: cs)).map fun read => ((read.1 : Int), read.2) := by
  have hblank : (c :: cs).dropWhile Text.isBlank = c :: cs := by
    rw [List.dropWhile_cons, isBlank_of_isDigit hc]
    rfl
  rw [readYear, readNumber, hblank, Option.map_map]
  -- A digit is neither of the two signs.
  split
  · rename_i heq
    cases heq
    cases hc
  · rename_i heq
    cases heq
    cases hc
  · rfl

/-- Every digit behind a sign is read. -/
theorem readDigits_behindSign (width n : Nat) (rest : List Char) :
    readDigits (Decimal.padded width n ++ '-' :: rest).length (Decimal.padded width n ++ '-' :: rest) =
      some (Decimal.padded width n, '-' :: rest) := by
  refine readDigits_padded ?_ (.inr ?_)
  · rw [List.length_append]
    exact Nat.le_add_right ..
  · intro c hc
    cases hc
    rfl

theorem readYear_append (year : Int) (rest : List Char) :
    readYear (yearChars year ++ '-' :: rest) = some (year, '-' :: rest) := by
  have hminus : ∀ cs, readYear ('-' :: cs) =
      (readDigits cs.length cs).map fun read => (-(valueOf read.1 : Int), read.2) := fun _ => rfl
  have hplus : ∀ cs, readYear ('+' :: cs) =
      (readDigits cs.length cs).map fun read => ((valueOf read.1 : Int), read.2) := fun _ => rfl
  rw [yearChars]
  split
  case isTrue hneg =>
    have hyear : -(year.natAbs : Int) = year := by omega
    rw [List.cons_append, hminus, readDigits_behindSign, Option.map_some]
    simp only [valueOf_padded, hyear]
  split
  case isTrue hneg hlong =>
    have hyear : (year.natAbs : Int) = year := by omega
    rw [List.cons_append, hplus, readDigits_behindSign, Option.map_some]
    simp only [valueOf_padded, hyear]
  case isFalse hneg hlong =>
    -- Four digits fill the width, so that the sign behind them is not reached.
    have hpow : Nat.pow 10 4 = 10000 := rfl
    have hyear : (year.natAbs : Int) = year := by omega
    have hnumber := readNumber_padded (show year.natAbs < Nat.pow 10 4 by omega) (by decide) ('-' :: rest)
    obtain ⟨c, cs, hcs, hc⟩ := exists_padded_append 4 year.natAbs ('-' :: rest)
    rw [hcs] at hnumber ⊢
    rw [readYear_of_isDigit hc, hnumber, Option.map_some]
    simp only [hyear]

/-- Digits of a second at the end of the text. -/
theorem readFraction_padded {k : Nat} (h : n < Nat.pow 10 k) (hk : 0 < k) (hwidth : k ≤ 9) :
    readFraction ('.' :: Decimal.padded k n) = some (n * Nat.pow 10 (9 - k), []) := by
  have hlength := Decimal.length_padded h hk
  have hdigits : readDigits 9 (Decimal.padded k n ++ []) = some (Decimal.padded k n, []) :=
    readDigits_padded (by omega) (.inr fun _ hc => nomatch hc)
  rw [List.append_nil] at hdigits
  simp only [readFraction, hdigits, Option.map_some, valueOf_padded, hlength, List.dropWhile_nil]

theorem readFraction_fractionChars {nano : Nat} (h : nano < 1000000000) :
    readFraction (fractionChars nano) = some (nano, []) := by
  have hthird : Nat.pow 10 3 = 1000 := rfl
  have hsixth : Nat.pow 10 6 = 1000000 := rfl
  have hninth : Nat.pow 10 9 = 1000000000 := rfl
  rw [fractionChars]
  split
  case isTrue hzero =>
    rw [hzero]
    rfl
  split
  case isTrue hmilli =>
    have hwhole : nano / 1000000 * 1000000 = nano := Nat.div_mul_cancel (Nat.dvd_of_mod_eq_zero hmilli)
    rw [readFraction_padded (by omega) (by decide) (by decide), hsixth, hwhole]
  split
  case isTrue hmicro =>
    have hwhole : nano / 1000 * 1000 = nano := Nat.div_mul_cancel (Nat.dvd_of_mod_eq_zero hmicro)
    rw [readFraction_padded (by omega) (by decide) (by decide), hthird, hwhole]
  case isFalse =>
    rw [readFraction_padded (by omega) (by decide) (by decide)]
    exact congrArg some (Prod.ext (Nat.mul_one nano) rfl)

/-! ## The whole -/

theorem of?_self (m : Moment) : of? m.year m.month m.day m.hour m.minute m.second m.nano = some m := by
  rw [of?, dif_pos m.isDate, dif_pos m.isTime]

theorem readChars_chars (m : Moment) : readChars m.chars = some m := by
  have hlast := daysIn_le m.year m.month
  obtain ⟨-, -, -, hmonth, -, hday⟩ := m.isDate
  obtain ⟨hhour, hminute, hsecond, hnano⟩ := m.isTime
  have hdash : Text.isBlank '-' = false := by decide
  have hmark : Text.isBlank 'T' = false := by decide
  have hcolon : Text.isBlank ':' = false := by decide
  simp only [chars, readChars, List.append_assoc, List.cons_append, readYear_append, Option.bind_eq_bind,
    Option.bind_some, readPart_append hdash (show m.month < 100 by omega),
    readPart_append hdash (show m.day < 100 by omega),
    readPart_append hmark (show m.hour < 100 by omega), readPart_append hcolon (show m.minute < 100 by omega),
    readPart_append hcolon (show m.second < 100 by omega), readFraction_fractionChars hnano, List.all_nil, if_true,
    of?_self]

/-- The text of a moment reads as that moment. -/
theorem read?_text (m : Moment) : read? m.text = some m := by
  rw [read?, text, String.toList_ofList]
  exact readChars_chars m

end Moment
end TaskLifecycle
