import Mathlib.Data.List.Nodup
import TaskLifecycle.Identifier
import TaskLifecycle.Proofs.Decimal

/-!
# TaskLifecycle.Proofs.Identifier — when two identifiers are one

* `text_injective`: identifiers of one kind differ if their numbers do; `number_eq_of_text_eq`: and so do any others.
* `compose_eq_fields`: a number as the bits of its fields.
* `compose_eq_iff`: numbers of one worker are equal if and only if they tell one time and one place in the sequence.
* `Recurs`: time and place of the next number have come before; `Source.next_mem_numbers`: exactly then the number of a
  source repeats an earlier one; `Source.nodup_window`: in no round of the sequence that happens.
* `numbers_of_rounds`: both, for the identifiers of a process.
-/

namespace TaskLifecycle
namespace Identifier

theorem text_injective {kind : Kind} {n m : Nat} (h : text kind n = text kind m) : n = m := by
  have hl := congrArg String.toList h
  simp only [text, String.toList_append] at hl
  exact Decimal.text_injective (String.toList_injective (List.append_cancel_left hl))

theorem underscore_notMem_tag (kind : Kind) : '_' ∉ kind.tag.toList := by
  cases kind <;> decide

/-- The number of an identifier stands after its only underscore. -/
theorem number_eq_of_text_eq {kind kind' : Kind} {n m : Nat} (h : text kind n = text kind' m) : n = m := by
  have hrest (kind : Kind) (n : Nat) :
      (text kind n).toList.dropWhile (· ≠ '_') = '_' :: (Decimal.text n).toList := by
    rw [text, String.toList_append, String.toList_append, List.append_assoc, List.dropWhile_append_of_pos]
    · rfl
    · intro ch hch
      exact decide_eq_true fun he => underscore_notMem_tag kind (he ▸ hch)
  have hl := hrest kind n
  rw [h, hrest] at hl
  exact (Decimal.text_injective (String.toList_injective (List.cons.inj hl).2)).symm

/-- Identifiers with different numbers differ, of whatever kinds they are. -/
theorem nodup_zipWith_text (kinds : List Kind) {numbers : List Nat} (h : numbers.Nodup) :
    (List.zipWith text kinds numbers).Nodup := by
  induction kinds generalizing numbers with
  | nil => exact List.nodup_nil
  | cons kind kinds ih =>
    cases numbers with
    | nil => exact List.nodup_nil
    | cons number numbers =>
      rw [List.nodup_cons] at h
      rw [List.zipWith_cons_cons, List.nodup_cons]
      refine ⟨fun hmem => h.1 ?_, ih h.2⟩
      obtain ⟨i, hi, htext⟩ := List.getElem_of_mem hmem
      rw [List.getElem_zipWith] at htext
      rw [← number_eq_of_text_eq htext]
      exact List.getElem_mem _

/-! ## Numbers -/

/-- The time that a number tells: seconds since the epoch, none before it, in 32 bits. -/
def tick (now : Nat) : Nat :=
  (now - epoch) % Nat.pow 2 32

/-- A number as its fields lie in its bits, from the lowest the version, the place, the worker and the time. -/
theorem compose_eq_fields (now worker place : Nat) :
    compose now worker place =
      ((now - epoch) &&& (Nat.pow 2 32 - 1)) <<< 32 ||| (worker &&& (Nat.pow 2 21 - 1)) <<< 11 |||
        (place &&& (Nat.pow 2 10 - 1)) <<< 1 ||| (version &&& (Nat.pow 2 1 - 1)) <<< 0 := by
  simp only [Nat.pow_eq, Nat.and_two_pow_sub_one_eq_mod]
  have hplace : place % 2 ^ 10 * 2 < 2 ^ 11 := by omega
  have hworker : worker % 2 ^ 21 * 2 ^ 11 + place % 2 ^ 10 * 2 < 2 ^ 32 := by omega
  rw [Nat.or_assoc, Nat.or_assoc, version, Nat.zero_mod, Nat.zero_shiftLeft, Nat.or_zero]
  rw [Nat.shiftLeft_eq (place % _), Nat.pow_one, ← Nat.shiftLeft_add_eq_or_of_lt hplace, Nat.shiftLeft_eq (worker % _),
    ← Nat.shiftLeft_add_eq_or_of_lt hworker, Nat.shiftLeft_eq]
  simp only [compose, version, Nat.pow_eq, Nat.add_zero, Nat.add_assoc]

/-- Numbers of one worker are equal if and only if they tell one time and one place in the sequence. -/
theorem compose_eq_iff {now now' worker place place' : Nat} (h : place ≤ sequenceMax) (h' : place' ≤ sequenceMax) :
    compose now worker place = compose now' worker place' ↔ tick now = tick now' ∧ place = place' := by
  simp only [compose, tick, sequenceMax, Nat.pow_eq] at *
  omega

/-! ## Sources -/

/-- After numbers for `moments`, one more brings back the time and the place in the sequence of one of them. -/
def Recurs (moments : List Nat) (now : Nat) : Prop :=
  ∃ i m, moments[i]? = some m ∧ i % sequenceMax = moments.length % sequenceMax ∧ tick m = tick now

namespace Source

/-- The source after `n` more numbers. -/
def skip (s : Source) (n : Nat) : Source :=
  { s with count := s.count + n }

theorem skip_skip (s : Source) (n m : Nat) : (s.skip n).skip m = s.skip (n + m) := by
  simp [skip, Nat.add_assoc]

theorem next_snd (s : Source) (now : Nat) : (s.next now).2 = s.skip 1 := rfl

theorem place_le (s : Source) : s.place ≤ sequenceMax :=
  Nat.le_of_lt (Nat.mod_lt _ (by decide))

theorem place_skip_eq_iff (s : Source) (n m : Nat) :
    (s.skip n).place = (s.skip m).place ↔ n % sequenceMax = m % sequenceMax := by
  simp only [place, skip, sequenceMax]
  omega

/-- The number that comes after `i` others. -/
theorem getElem?_numbers (s : Source) (moments : List Nat) (i : Nat) :
    (s.numbers moments)[i]? = moments[i]?.map fun now => ((s.skip i).next now).1 := by
  induction moments generalizing s i with
  | nil => rfl
  | cons now rest ih =>
    cases i with
    | zero => rfl
    | succ i =>
      rw [numbers, List.getElem?_cons_succ, List.getElem?_cons_succ, ih, next_snd, skip_skip, Nat.add_comm 1]

theorem numbers_concat (s : Source) (moments : List Nat) (now : Nat) :
    s.numbers (moments ++ [now]) = s.numbers moments ++ [((s.skip moments.length).next now).1] := by
  induction moments generalizing s with
  | nil => rfl
  | cons first rest ih =>
    rw [List.cons_append, numbers, numbers, ih, next_snd, skip_skip, List.length_cons, Nat.add_comm 1]
    rfl

theorem length_numbers (s : Source) (moments : List Nat) : (s.numbers moments).length = moments.length := by
  induction moments generalizing s with
  | nil => rfl
  | cons now rest ih => rw [numbers, List.length_cons, List.length_cons, ih]

/-- Two numbers of a source are equal if and only if as many others lie between them as make up rounds of the sequence, and
they tell one time. -/
theorem next_skip_eq_iff (s : Source) (i j now now' : Nat) :
    ((s.skip i).next now).1 = ((s.skip j).next now').1 ↔ i % sequenceMax = j % sequenceMax ∧ tick now = tick now' := by
  show compose now s.worker (s.skip i).place = compose now' s.worker (s.skip j).place ↔ _
  rw [compose_eq_iff (place_le _) (place_le _), place_skip_eq_iff, and_comm]

/-- The next number repeats an earlier one if and only if it recurs. -/
theorem next_mem_numbers (s : Source) (moments : List Nat) (now : Nat) :
    ((s.skip moments.length).next now).1 ∈ s.numbers moments ↔ Recurs moments now := by
  rw [List.mem_iff_getElem?]
  refine exists_congr fun i => ?_
  rw [getElem?_numbers, Option.map_eq_some_iff]
  exact exists_congr fun m => and_congr_right fun _ => next_skip_eq_iff s i moments.length m now

/-- Numbers less than one round of the sequence apart differ, whatever the clock tells. -/
theorem getElem?_numbers_ne (s : Source) {moments : List Nat} {i j : Nat} (hij : i < j) (hround : j < i + sequenceMax)
    (hj : j < moments.length) : (s.numbers moments)[i]? ≠ (s.numbers moments)[j]? := by
  rw [getElem?_numbers, getElem?_numbers, List.getElem?_eq_getElem (Nat.lt_trans hij hj), List.getElem?_eq_getElem hj,
    Option.map_some, Option.map_some, ne_eq, Option.some.injEq, next_skip_eq_iff]
  rintro ⟨hplace, -⟩
  simp only [sequenceMax] at hround hplace
  omega

/-- Within one round of the sequence no number is given out twice. -/
theorem nodup_window (s : Source) (moments : List Nat) (n : Nat) :
    (((s.numbers moments).drop n).take sequenceMax).Nodup := by
  rw [List.nodup_iff_getElem?_ne_getElem?]
  intro i j hij hj
  rw [List.length_take, List.length_drop, length_numbers, Nat.lt_min] at hj
  rw [List.getElem?_take_of_lt (Nat.lt_trans hij hj.1), List.getElem?_take_of_lt hj.1, List.getElem?_drop,
    List.getElem?_drop]
  exact getElem?_numbers_ne s (by omega) (by omega) (by omega)

end Source

/-! ## Identifiers -/

/-- The identifiers of a process, for the kinds and the moments for which it gives them out. -/
def Source.texts (s : Source) (drawn : List (Kind × Nat)) : List String :=
  List.zipWith text (drawn.map Prod.fst) (s.numbers (drawn.map Prod.snd))

/-- Two numbers that one worker composes at places of its sequence, `i` and `j` after its start, are equal if and only if
`i` and `j` differ by rounds of 1023 places and the seconds since the epoch, none before it, agree in 32 bits.  So of any
1023 identifiers that a process gives out one after another, of whatever kinds, no two are the same, whatever its clock
tells. -/
theorem numbers_of_rounds (worker start : Nat) :
    (∀ i j now now', compose now worker ((start + i) % sequenceMax) = compose now' worker ((start + j) % sequenceMax) ↔
      i % 1023 = j % 1023 ∧ (now - epoch) % Nat.pow 2 32 = (now' - epoch) % Nat.pow 2 32) ∧
    ∀ drawn n, ((({ worker, start, count := 0 } : Source).texts drawn).drop n |>.take 1023).Nodup := by
  let s : Source := { worker, start, count := 0 }
  constructor
  · intro i j now now'
    have h := s.next_skip_eq_iff i j now now'
    simp only [s, Source.next, Source.place, Source.skip, tick, Nat.zero_add] at h
    exact h
  · intro drawn n
    rw [Source.texts, List.drop_zipWith, List.take_zipWith]
    exact nodup_zipWith_text _ (s.nodup_window _ n)

end Identifier
end TaskLifecycle
