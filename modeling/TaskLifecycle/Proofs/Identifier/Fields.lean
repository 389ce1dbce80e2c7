import TaskLifecycle.Proofs.Identifier

/-!
# TaskLifecycle.Proofs.Identifier.Fields — what lies where in a number

* `bits`: neighbouring bits of a number.
* `word`: a number as masks and shifts on words of 64 bits make it; `toNat_word`: no bit is lost at the end of the word.
* `compose_lt`, `seconds_compose`, `bits_compose_worker`, `bits_compose_place`, `bits_compose_version`: no field reaches into
  another one.
* `compose_lt_compose`: a later tick makes a larger number, whatever the other fields hold.
* `fields_of_compose`: every field is found where it belongs, and numbers grow with time.
-/

namespace TaskLifecycle
namespace Identifier

variable {now now' worker worker' place place' : Nat}

/-! ## Bits -/

/-- The bits of a number from `low` on, `width` of them, as a number of their own. -/
def bits (low width number : Nat) : Nat :=
  number / Nat.pow 2 low % Nat.pow 2 width

/-! ## Words -/

/-- The lowest `width` bits of a word, shifted up by `shift`. -/
def shifted (width shift value : UInt64) : UInt64 :=
  (value &&& (1 <<< width - 1)) <<< shift

/-- The number for a moment, a worker and a place in the sequence, made in one word. -/
def word (now worker place : UInt64) : UInt64 :=
  shifted 32 32 (if now < 1655683200 then 0 else now - 1655683200) ||| shifted 21 11 worker ||| shifted 10 1 place |||
    shifted 1 0 0

/-- Bits that stay within the word are shifted as those of any number. -/
theorem toNat_shifted {width shift : UInt64} (hwidth : width < 64) (hshift : shift < 64)
    (h : width.toNat + shift.toNat ≤ 64) (value : UInt64) :
    (shifted width shift value).toNat = (value.toNat &&& (Nat.pow 2 width.toNat - 1)) <<< shift.toNat := by
  rw [Nat.pow_eq]
  have hw : width.toNat < 64 := hwidth
  have hs : shift.toNat < 64 := hshift
  have hpow : 2 ^ width.toNat < 2 ^ 64 := Nat.pow_lt_pow_right (by decide) hw
  have hone : (1 <<< width : UInt64).toNat = 2 ^ width.toNat := by
    rw [UInt64.toNat_shiftLeft, Nat.mod_eq_of_lt hw, UInt64.toNat_one, Nat.one_shiftLeft, Nat.mod_eq_of_lt hpow]
  have hmask : (1 <<< width - 1 : UInt64).toNat = 2 ^ width.toNat - 1 := by
    have hle : (1 : UInt64) ≤ 1 <<< width := by
      rw [UInt64.le_iff_toNat_le, hone]
      exact Nat.one_le_two_pow
    rw [UInt64.toNat_sub_of_le _ _ hle, hone, UInt64.toNat_one]
  have hlow : (value.toNat &&& (2 ^ width.toNat - 1)) < 2 ^ width.toNat := by
    rw [Nat.and_two_pow_sub_one_eq_mod]
    exact Nat.mod_lt _ (Nat.two_pow_pos _)
  have hfits : (value.toNat &&& (2 ^ width.toNat - 1)) <<< shift.toNat < 2 ^ 64 := by
    calc (value.toNat &&& (2 ^ width.toNat - 1)) <<< shift.toNat
        = (value.toNat &&& (2 ^ width.toNat - 1)) * 2 ^ shift.toNat := Nat.shiftLeft_eq _ _
      _ < 2 ^ width.toNat * 2 ^ shift.toNat := Nat.mul_lt_mul_of_pos_right hlow (Nat.two_pow_pos _)
      _ = 2 ^ (width.toNat + shift.toNat) := (Nat.pow_add _ _ _).symm
      _ ≤ 2 ^ 64 := Nat.pow_le_pow_right (by decide) h
  rw [shifted, UInt64.toNat_shiftLeft, UInt64.toNat_and, hmask, Nat.mod_eq_of_lt hs, Nat.mod_eq_of_lt hfits]

/-- No bit is lost at the end of the word. -/
theorem toNat_word (now worker place : UInt64) :
    (word now worker place).toNat = compose now.toNat worker.toNat place.toNat := by
  have hsince : (if now < 1655683200 then 0 else now - 1655683200 : UInt64).toNat = now.toNat - epoch := by
    by_cases h : now < 1655683200
    · have hlt : now.toNat < 1655683200 := h
      rw [if_pos h, epoch, Nat.sub_eq_zero_of_le (Nat.le_of_lt hlt)]
      rfl
    · rw [if_neg h, UInt64.toNat_sub_of_le _ _ (UInt64.not_lt.mp h)]
      rfl
  rw [word, UInt64.toNat_or, UInt64.toNat_or, UInt64.toNat_or, toNat_shifted (by decide) (by decide) (by decide),
    toNat_shifted (by decide) (by decide) (by decide), toNat_shifted (by decide) (by decide) (by decide),
    toNat_shifted (by decide) (by decide) (by decide), hsince, compose_eq_fields]
  rfl

/-! ## Fields -/

theorem compose_lt (now worker place : Nat) : compose now worker place < Nat.pow 2 64 := by
  simp only [compose, version, Nat.pow_eq]
  omega

theorem seconds_compose (now worker place : Nat) : seconds (compose now worker place) = tick now := by
  simp only [seconds, compose, tick, version, Nat.pow_eq]
  omega

theorem bits_compose_worker (now worker place : Nat) :
    bits 11 21 (compose now worker place) = worker % Nat.pow 2 21 := by
  simp only [bits, compose, version, Nat.pow_eq]
  omega

theorem bits_compose_place (now worker place : Nat) :
    bits 1 10 (compose now worker place) = place % Nat.pow 2 10 := by
  simp only [bits, compose, version, Nat.pow_eq]
  omega

theorem bits_compose_version (now worker place : Nat) : bits 0 1 (compose now worker place) = version := by
  simp only [bits, compose, version, Nat.pow_eq]
  omega

/-! ## Order -/

/-- A later tick makes a larger number, whatever the other fields hold. -/
theorem compose_lt_compose (h : tick now < tick now') : compose now worker place < compose now' worker' place' := by
  have hrest : compose now worker place < (tick now + 1) * Nat.pow 2 32 := by
    simp only [compose, tick, version, Nat.pow_eq]
    omega
  calc compose now worker place < (tick now + 1) * Nat.pow 2 32 := hrest
    _ ≤ tick now' * Nat.pow 2 32 := Nat.mul_le_mul_right _ h
    _ ≤ compose now' worker' place' := by
      simp only [compose, tick, version, Nat.pow_eq]
      omega

/-- The ticks of the first 2^32 seconds do not come round. -/
theorem tick_lt_tick (hstart : epoch ≤ now) (h : now < now') (hend : now' < epoch + Nat.pow 2 32) :
    tick now < tick now' := by
  rw [tick, tick, Nat.mod_eq_of_lt (by omega), Nat.mod_eq_of_lt (by omega)]
  omega

/-- Of a moment, a worker and a place in the sequence, whatever they are, a number of 64 bits holds the seconds since the
epoch, none before it, in its upper 32 bits, the lowest 21 bits of the worker in bits 11 to 31 and the lowest 10 of the
place in bits 1 to 10; bit 0 is not set.  Masks and shifts on words make the same number.  Within the first 2^32 seconds a
later moment has the larger numbers, whatever the workers and the places. -/
theorem fields_of_compose :
    (∀ now worker place,
      compose now worker place < Nat.pow 2 64 ∧
      seconds (compose now worker place) = (now - epoch) % Nat.pow 2 32 ∧
      bits 11 21 (compose now worker place) = worker % Nat.pow 2 21 ∧
      bits 1 10 (compose now worker place) = place % Nat.pow 2 10 ∧
      bits 0 1 (compose now worker place) = 0) ∧
    (∀ now worker place : UInt64, (word now worker place).toNat = compose now.toNat worker.toNat place.toNat) ∧
    ∀ now now' worker worker' place place', epoch ≤ now → now < now' → now' < epoch + Nat.pow 2 32 →
      compose now worker place < compose now' worker' place' := by
  refine ⟨fun now worker place => ?_, toNat_word, fun now now' worker worker' place place' hstart h hend => ?_⟩
  · exact ⟨compose_lt now worker place, seconds_compose now worker place, bits_compose_worker now worker place,
      bits_compose_place now worker place, bits_compose_version now worker place⟩
  · exact compose_lt_compose (tick_lt_tick hstart h hend)

/-- The last number of the first second and the first one of the next. -/
theorem fields_of_fullWord :
    (epoch ≤ epoch ∧ epoch < epoch + 1 ∧ epoch + 1 < epoch + Nat.pow 2 32) ∧
      compose epoch 18446744073709551615 18446744073709551615 < compose (epoch + 1) 0 0 := by
  have hrange : epoch ≤ epoch ∧ epoch < epoch + 1 ∧ epoch + 1 < epoch + Nat.pow 2 32 := by decide
  exact ⟨hrange, fields_of_compose.2.2 _ _ _ _ _ _ hrange.1 hrange.2.1 hrange.2.2⟩

end Identifier
end TaskLifecycle
