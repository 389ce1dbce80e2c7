import TaskLifecycle.Toml.Document

/-!
# TaskLifecycle.Proofs.Toml.Numeral — integers in a document

* `Toml.Groups`, `Toml.Numeral`: digits with underscores between them, and the integer that a document writes with them.
* `Toml.Ends`: what may stand behind a number.  `Toml.digitGroups_append`, `Toml.wholePart_append`: digits are read up to it.
* `Toml.number_of_numeral`: a numeral is read as its integer if that has 64 bits, and refused otherwise;
  `Toml.dateTime_of_numeral`: it is no date; `Toml.value_of_numeral`: so it is read where a value stands.
-/

namespace TaskLifecycle
namespace Toml

/-- Digits in groups, with single underscores between the groups. -/
inductive Groups (isDigit : Char → Bool) : List Char → List Char → Prop where
  | last {ds : List Char} (some : ds ≠ []) (all : ∀ c ∈ ds, isDigit c = true) : Groups isDigit ds ds
  | more {ds text others : List Char} (some : ds ≠ []) (all : ∀ c ∈ ds, isDigit c = true)
    (rest : Groups isDigit text others) : Groups isDigit (ds ++ '_' :: text) (ds ++ others)

/-- The integer that a document writes: in decimal digits, several of them without a zero in front, behind a sign or none,
or in digits to another base behind its letter. -/
inductive Numeral : List Char → Int → Prop where
  | plain {text ds : List Char} (groups : Groups Decimal.isDigit text ds) (zero : text.head? = some '0' → text = ['0']) :
    Numeral text (valueIn 10 ds)
  | plus {text ds : List Char} (groups : Groups Decimal.isDigit text ds) (zero : text.head? = some '0' → text = ['0']) :
    Numeral ('+' :: text) (valueIn 10 ds)
  | minus {text ds : List Char} (groups : Groups Decimal.isDigit text ds) (zero : text.head? = some '0' → text = ['0']) :
    Numeral ('-' :: text) (-(valueIn 10 ds : Int))
  | hexadecimal {text ds : List Char} (groups : Groups isHexDigit text ds) : Numeral ('0' :: 'x' :: text) (valueIn 16 ds)
  | octal {text ds : List Char} (groups : Groups isOctalDigit text ds) : Numeral ('0' :: 'o' :: text) (valueIn 8 ds)
  | binary {text ds : List Char} (groups : Groups isBinaryDigit text ds) : Numeral ('0' :: 'b' :: text) (valueIn 2 ds)

/-- The characters that may stand behind a number. -/
def enders : List Char :=
  [' ', '\t', '\n', '\r', '#', ',', ']', '}']

/-- The end of the text, or a character that may stand behind a number. -/
def Ends (behind : List Char) : Prop :=
  ∀ c, behind.head? = some c → c ∈ enders

/-- An integer of 64 bits. -/
def longWord? (n : Int) : Option Setting :=
  if -9223372036854775808 ≤ n ∧ n < 9223372036854775808 then some (.whole n) else none

/-! ## Digits -/

variable {isDigit : Char → Bool} {text ds behind rest : List Char} {n : Int} {c : Char}

/-- One digit is a numeral. -/
theorem numeral_digit (h : Decimal.isDigit c = true) : Numeral [c] (valueIn 10 [c]) := by
  refine .plain (.last (List.cons_ne_nil _ _) (List.forall_mem_singleton.mpr h)) fun hzero => ?_
  rw [Option.some.inj hzero]

theorem isHexDigit_of_isDigit (h : Decimal.isDigit c = true) : isHexDigit c = true := by
  simp only [Decimal.isDigit, Bool.and_eq_true, decide_eq_true_eq] at h
  simp only [isHexDigit, hexValue, if_pos h, Option.isSome_some]

theorem isHexDigit_of_isOctalDigit (h : isOctalDigit c = true) : isHexDigit c = true := by
  simp only [isOctalDigit, Bool.and_eq_true, decide_eq_true_eq] at h
  refine isHexDigit_of_isDigit ?_
  simp only [Decimal.isDigit, Bool.and_eq_true, decide_eq_true_eq]
  omega

theorem isHexDigit_of_isBinaryDigit (h : isBinaryDigit c = true) : isHexDigit c = true := by
  simp only [isBinaryDigit, Bool.or_eq_true, beq_iff_eq] at h
  rcases h with rfl | rfl <;> decide

theorem ends_nil : Ends [] :=
  fun _ h => nomatch h

theorem Ends.ne (h : Ends behind) (hc : behind.head? = some c) {d : Char} (hd : d ∉ enders) : c ≠ d :=
  fun he => hd (he ▸ h c hc)

/-- What stands behind a number is no digit. -/
theorem Ends.isHexDigit_eq_false (h : Ends behind) (hc : behind.head? = some c) : isHexDigit c = false := by
  have hall : enders.all (fun c => !isHexDigit c) = true := by decide
  exact (Bool.not_eq_true' _).mp (List.all_eq_true.mp hall c (h c hc))

theorem eq_false_of_isHexDigit (hdigit : ∀ c, isDigit c = true → isHexDigit c = true) (hc : isHexDigit c = false) :
    isDigit c = false := by
  rw [Bool.eq_false_iff]
  exact fun h => absurd (hdigit c h) (Bool.eq_false_iff.mp hc)

theorem takeWhile_append_of_stop {p : Char → Bool} (hall : ∀ c ∈ ds, p c = true)
    (hstop : ∀ c, rest.head? = some c → p c = false) : (ds ++ rest).takeWhile p = ds := by
  rw [List.takeWhile_append_of_pos hall]
  cases rest with
  | nil => exact List.append_nil ds
  | cons c tail => rw [List.takeWhile_cons_of_neg (Bool.eq_false_iff.mp (hstop c rfl)), List.append_nil]

/-- Groups have digits and underscores only, and begin with a digit. -/
theorem Groups.forall_mem (h : Groups isDigit text ds) : ∀ c ∈ text, isDigit c = true ∨ c = '_' := by
  induction h with
  | last _ hall => exact fun c hc => .inl (hall c hc)
  | more _ hall _ ih =>
    intro c hc
    rcases List.mem_append.mp hc with hc | hc
    · exact .inl (hall c hc)
    · rcases List.mem_cons.mp hc with rfl | hc
      · exact .inr rfl
      · exact ih c hc

theorem Groups.head (h : Groups isDigit text ds) : ∃ c rest, text = c :: rest ∧ isDigit c = true := by
  have hfirst {ds : List Char} (hsome : ds ≠ []) (hall : ∀ c ∈ ds, isDigit c = true) (more : List Char) :
      ∃ c rest, ds ++ more = c :: rest ∧ isDigit c = true := by
    obtain ⟨c, rest, rfl⟩ := List.exists_cons_of_ne_nil hsome
    exact ⟨c, rest ++ more, rfl, hall c List.mem_cons_self⟩
  cases h with
  | last hsome hall =>
    have hhead := hfirst hsome hall []
    rwa [List.append_nil] at hhead
  | more hsome hall => exact hfirst hsome hall _

/-- Groups of digits are read up to what may stand behind them, without their underscores. -/
theorem digitGroups_append (hdigit : ∀ c, isDigit c = true → isHexDigit c = true) (h : Groups isDigit text ds)
    (hends : Ends behind) {fuel : Nat} (hfuel : text.length < fuel) :
    digitGroups isDigit fuel (text ++ behind) = some (ds, behind) := by
  have hunderscore : isDigit '_' = false := eq_false_of_isHexDigit hdigit (by decide)
  induction h generalizing fuel with
  | @last ds hsome hall =>
    obtain ⟨fuel, rfl⟩ : ∃ k, fuel = k + 1 := ⟨fuel - 1, by omega⟩
    have hstop (c : Char) (hc : behind.head? = some c) : isDigit c = false :=
      eq_false_of_isHexDigit hdigit (hends.isHexDigit_eq_false hc)
    simp only [digitGroups, takeWhile_append_of_stop hall hstop, List.isEmpty_eq_false_iff.mpr hsome, List.drop_left,
      Bool.false_eq_true, if_false]
    split
    · exact absurd rfl (hends.ne rfl (by decide))
    · rfl
  | @more ds text others hsome hall _ ih =>
    obtain ⟨fuel, rfl⟩ : ∃ k, fuel = k + 1 := ⟨fuel - 1, by omega⟩
    have hlength : text.length < fuel := by
      rw [List.length_append, List.length_cons] at hfuel
      omega
    have hstop (c : Char) (hc : ('_' :: (text ++ behind)).head? = some c) : isDigit c = false := by
      obtain rfl := Option.some.inj hc
      exact hunderscore
    have hassoc : ds ++ '_' :: text ++ behind = ds ++ '_' :: (text ++ behind) := List.append_assoc _ _ _
    simp only [digitGroups, hassoc, takeWhile_append_of_stop hall hstop, List.isEmpty_eq_false_iff.mpr hsome, List.drop_left,
      Bool.false_eq_true, if_false, ih hlength, Option.map_some]

theorem groups_append (hdigit : ∀ c, isDigit c = true → isHexDigit c = true) (h : Groups isDigit text ds)
    (hends : Ends behind) : groups isDigit (text ++ behind) = some (ds, behind) := by
  refine digitGroups_append hdigit h hends ?_
  rw [List.length_append]
  omega

theorem Groups.eq_zero (h : Groups isDigit ['0'] ds) : ds = ['0'] := by
  generalize htext : ['0'] = text at h
  cases h with
  | last => rfl
  | @more ds text _ hsome =>
    have hlength := congrArg List.length htext
    have hpos := List.length_pos_iff.mpr hsome
    rw [List.length_singleton, List.length_append, List.length_cons] at hlength
    omega

/-- Decimal digits are read up to what may stand behind them. -/
theorem wholePart_append (h : Groups Decimal.isDigit text ds) (hzero : text.head? = some '0' → text = ['0'])
    (hends : Ends behind) : wholePart (text ++ behind) = some (ds, behind) := by
  by_cases hhead : text.head? = some '0'
  · obtain rfl := hzero hhead
    obtain rfl := h.eq_zero
    have hstop (c : Char) (hc : behind.head? = some c) : (Decimal.isDigit c || c == '_') = false := by
      have hdigit := eq_false_of_isHexDigit (fun _ => isHexDigit_of_isDigit) (hends.isHexDigit_eq_false hc)
      rw [hdigit, beq_false_of_ne (hends.ne hc (by decide))]
      rfl
    have htake : behind.takeWhile (fun c => Decimal.isDigit c || c == '_') = [] :=
      takeWhile_append_of_stop (List.forall_mem_nil _) hstop
    simp only [wholePart, List.singleton_append, htake, List.isEmpty_nil, if_true]
  · obtain ⟨c, rest, rfl, hc⟩ := h.head
    have hc : c ≠ '0' := fun hc => hhead (by rw [hc]; rfl)
    have hgroups := groups_append (fun _ => isHexDigit_of_isDigit) h hends
    rw [List.cons_append] at hgroups ⊢
    unfold wholePart
    split
    · rename_i hcons
      exact absurd (List.cons_eq_cons.mp hcons).1 hc
    · exact hgroups

/-! ## Numbers -/

theorem fractionPart_of_ends (hends : Ends behind) : fractionPart behind = some ([], behind) := by
  unfold fractionPart
  split
  · exact absurd rfl (hends.ne rfl (by decide))
  · rfl

theorem exponentPart_of_ends (hends : Ends behind) : exponentPart behind = some (0, behind) := by
  cases behind with
  | nil => rfl
  | cons c rest =>
    have he : c ≠ 'e' := hends.ne rfl (by decide)
    have hE : c ≠ 'E' := hends.ne rfl (by decide)
    simp only [exponentPart, he, hE, or_self, if_false]

theorem signedWord_false (m : Nat) : signedWord false m = longWord? m := by
  have hpow : Nat.pow 2 63 = 9223372036854775808 := by decide
  simp only [signedWord, longWord?, Bool.false_eq_true, if_false, hpow]
  by_cases hm : m < 9223372036854775808
  · rw [if_pos hm, if_pos (by omega)]
  · rw [if_neg hm, if_neg (by omega)]

theorem signedWord_true (m : Nat) : signedWord true m = longWord? (-(m : Int)) := by
  have hpow : Nat.pow 2 63 = 9223372036854775808 := by decide
  simp only [signedWord, longWord?, if_true, hpow]
  by_cases hm : m ≤ 9223372036854775808
  · rw [if_pos hm, if_pos (by omega)]
  · rw [if_neg hm, if_neg (by omega)]

theorem decimal_append (negative : Bool) (h : Groups Decimal.isDigit text ds)
    (hzero : text.head? = some '0' → text = ['0']) (hends : Ends behind) :
    decimal negative (text ++ behind) = (signedWord negative (valueIn 10 ds)).map (·, behind) := by
  simp only [decimal, wholePart_append h hzero hends, Option.bind_some, fractionPart_of_ends hends,
    exponentPart_of_ends hends, if_true]

theorem inBase_append {base : Nat} (hdigit : ∀ c, isDigit c = true → isHexDigit c = true) (h : Groups isDigit text ds)
    (hends : Ends behind) : inBase base isDigit (text ++ behind) = (longWord? (valueIn base ds)).map (·, behind) := by
  rw [inBase, groups_append hdigit h hends, Option.bind_some, ← signedWord_false]

theorem special_append (negative : Bool) (h : Groups Decimal.isDigit text ds) : special negative (text ++ behind) = none := by
  obtain ⟨c, rest, rfl, hc⟩ := h.head
  unfold special
  split
  · rename_i hcons
    obtain ⟨rfl, -⟩ := List.cons_eq_cons.mp hcons
    exact absurd hc (by decide)
  · rename_i hcons
    obtain ⟨rfl, -⟩ := List.cons_eq_cons.mp hcons
    exact absurd hc (by decide)
  · rfl

/-- A numeral is read as its integer if that has 64 bits. -/
theorem number_of_numeral (h : Numeral text n) (hends : Ends behind) :
    number (text ++ behind) = (longWord? n).map (·, behind) := by
  cases h with
  | @plain text ds hgroups hzero =>
    have hread : (special false (text ++ behind)).or (decimal false (text ++ behind)) =
        (longWord? (valueIn 10 ds)).map (·, behind) := by
      rw [special_append _ hgroups, Option.none_or, decimal_append _ hgroups hzero hends, signedWord_false]
    -- no number with a letter for its base, and no sign
    obtain ⟨c, rest, rfl, hc⟩ := hgroups.head
    have hletter (d : Char) (tail : List Char) (hd : d = 'x' ∨ d = 'o' ∨ d = 'b') : c :: rest ++ behind ≠ '0' :: d :: tail := by
      intro hcons
      obtain ⟨rfl, hrest⟩ := List.cons_eq_cons.mp hcons
      obtain ⟨-, rfl⟩ := List.cons_eq_cons.mp (hzero rfl)
      have hbehind : behind = d :: tail := hrest
      have hhead : behind.head? = some d := by rw [hbehind, List.head?_cons]
      rcases hd with hd | hd | hd
      · exact hends.ne hhead (by decide) hd
      · exact hends.ne hhead (by decide) hd
      · exact hends.ne hhead (by decide) hd
    unfold number
    split
    · exact absurd ‹_› (hletter 'x' _ (.inl rfl))
    · exact absurd ‹_› (hletter 'o' _ (.inr (.inl rfl)))
    · exact absurd ‹_› (hletter 'b' _ (.inr (.inr rfl)))
    · rename_i hcons
      obtain ⟨rfl, -⟩ := List.cons_eq_cons.mp hcons
      exact absurd hc (by decide)
    · rename_i hcons
      obtain ⟨rfl, -⟩ := List.cons_eq_cons.mp hcons
      exact absurd hc (by decide)
    · exact hread
  | @plus text ds hgroups hzero =>
    have hnumber : number ('+' :: text ++ behind) = (special false (text ++ behind)).or (decimal false (text ++ behind)) := rfl
    rw [hnumber, special_append _ hgroups, Option.none_or, decimal_append _ hgroups hzero hends, signedWord_false]
  | @minus text ds hgroups hzero =>
    have hnumber : number ('-' :: text ++ behind) = (special true (text ++ behind)).or (decimal true (text ++ behind)) := rfl
    rw [hnumber, special_append _ hgroups, Option.none_or, decimal_append _ hgroups hzero hends, signedWord_true]
  | hexadecimal hgroups => exact inBase_append (fun _ h => h) hgroups hends
  | octal hgroups => exact inBase_append (fun _ => isHexDigit_of_isOctalDigit) hgroups hends
  | binary hgroups => exact inBase_append (fun _ => isHexDigit_of_isBinaryDigit) hgroups hends

/-! ## Values -/

theorem Groups.notMem_marks (hdigit : ∀ c, isDigit c = true → isHexDigit c = true) (h : Groups isDigit text ds) :
    '-' ∉ text ∧ ':' ∉ text := by
  have hmarks {mark : Char} (hmark : isHexDigit mark = false) (hne : mark ≠ '_') : mark ∉ text := by
    intro hmem
    rcases h.forall_mem mark hmem with hc | hc
    · exact absurd (hdigit mark hc) (Bool.eq_false_iff.mp hmark)
    · exact hne hc
  exact ⟨hmarks (by decide) (by decide), hmarks (by decide) (by decide)⟩

/-- A numeral begins with a digit or a sign, and has no sign and no colon behind that. -/
theorem Numeral.exists_cons (h : Numeral text n) :
    ∃ c rest, text = c :: rest ∧ (Decimal.isDigit c = true ∨ c = '+' ∨ c = '-') ∧ '-' ∉ rest ∧ ':' ∉ rest := by
  have hbase {isDigit : Char → Bool} {letter : Char} {text ds : List Char}
      (hdigit : ∀ c, isDigit c = true → isHexDigit c = true) (hgroups : Groups isDigit text ds)
      (hletter : '-' ≠ letter ∧ ':' ≠ letter) :
      ∃ c rest, '0' :: letter :: text = c :: rest ∧ (Decimal.isDigit c = true ∨ c = '+' ∨ c = '-') ∧
        '-' ∉ rest ∧ ':' ∉ rest := by
    obtain ⟨hminus, hcolon⟩ := hgroups.notMem_marks hdigit
    exact ⟨'0', letter :: text, rfl, .inl (by decide), List.not_mem_cons_of_ne_of_not_mem hletter.1 hminus,
      List.not_mem_cons_of_ne_of_not_mem hletter.2 hcolon⟩
  cases h with
  | plain hgroups =>
    obtain ⟨hminus, hcolon⟩ := hgroups.notMem_marks fun _ => isHexDigit_of_isDigit
    obtain ⟨c, rest, rfl, hc⟩ := hgroups.head
    exact ⟨c, rest, rfl, .inl hc, fun hmem => hminus (List.mem_cons_of_mem c hmem),
      fun hmem => hcolon (List.mem_cons_of_mem c hmem)⟩
  | plus hgroups => exact ⟨'+', _, rfl, .inr (.inl rfl), hgroups.notMem_marks fun _ => isHexDigit_of_isDigit⟩
  | minus hgroups => exact ⟨'-', _, rfl, .inr (.inr rfl), hgroups.notMem_marks fun _ => isHexDigit_of_isDigit⟩
  | hexadecimal hgroups => exact hbase (fun _ h => h) hgroups (by decide)
  | octal hgroups => exact hbase (fun _ => isHexDigit_of_isOctalDigit) hgroups (by decide)
  | binary hgroups => exact hbase (fun _ => isHexDigit_of_isBinaryDigit) hgroups (by decide)

theorem fixed_eq_some (width : Nat) {cs rest : List Char} {v : Nat} (h : fixed width cs = some (v, rest)) :
    (cs.take width).length = width ∧ (∀ c ∈ cs.take width, Decimal.isDigit c = true) ∧ cs.drop width = rest := by
  simp only [fixed] at h
  obtain ⟨⟨hlength, hall⟩, hsome⟩ := Option.ite_none_right_eq_some.mp h
  exact ⟨hlength, List.all_eq_true.mp hall, (Prod.mk.inj (Option.some.inj hsome)).2⟩

/-- Digits at the start of a text do not reach into what stands behind it. -/
theorem le_length_of_take {width : Nat} (hends : Ends behind) (hlength : ((ds ++ behind).take width).length = width)
    (hall : ∀ c ∈ (ds ++ behind).take width, Decimal.isDigit c = true) : width ≤ ds.length := by
  refine Nat.le_of_not_lt fun hlt => ?_
  obtain ⟨k, hk⟩ : ∃ k, width - ds.length = k + 1 := ⟨width - ds.length - 1, by omega⟩
  cases behind with
  | nil =>
    rw [List.append_nil, List.length_take] at hlength
    omega
  | cons c tail =>
    have hc : c ∈ (ds ++ c :: tail).take width := by
      rw [List.take_append, hk, List.take_succ_cons]
      exact List.mem_append_right _ List.mem_cons_self
    exact absurd (isHexDigit_of_isDigit (hall c hc)) (Bool.eq_false_iff.mp (hends.isHexDigit_eq_false rfl))

/-- Where a fixed number of digits is read from a text without a mark behind its first character, no mark follows them. -/
theorem head_ne_of_fixed {mark first : Char} {width v : Nat} (hends : Ends behind) (hmark : mark = '-' ∨ mark = ':')
    (htail : mark ∉ ds) (h : fixed (width + 1) (first :: ds ++ behind) = some (v, rest)) : rest.head? ≠ some mark := by
  obtain ⟨hlength, hall, rfl⟩ := fixed_eq_some _ h
  rw [List.cons_append, List.take_succ_cons, List.length_cons] at hlength
  rw [List.cons_append, List.take_succ_cons] at hall
  have hle : width ≤ ds.length :=
    le_length_of_take hends (Nat.succ.inj hlength) fun c hc => hall c (List.mem_cons_of_mem _ hc)
  rw [List.cons_append, List.drop_succ_cons, List.drop_append_of_le_length hle, List.head?_append]
  intro hhead
  rcases Option.or_eq_some_iff.mp hhead with hmem | ⟨-, hbehind⟩
  · exact htail (List.mem_of_mem_drop (List.mem_of_head? hmem))
  · rcases hmark with hmark | hmark
    · exact hends.ne hbehind (by decide) hmark
    · exact hends.ne hbehind (by decide) hmark

theorem marked_of_head_ne {mark : Char} (low high : Nat) (h : rest.head? ≠ some mark) : marked mark low high rest = none := by
  cases rest with
  | nil => rfl
  | cons c tail => exact if_neg fun hc => h (by rw [hc]; rfl)

/-- A numeral is no date and no time. -/
theorem dateTime_of_numeral (h : Numeral text n) (hends : Ends behind) (clock : Clock) :
    dateTime clock (text ++ behind) = none := by
  obtain ⟨c, ds, rfl, -, hminus, hcolon⟩ := h.exists_cons
  have hdate : date (c :: ds ++ behind) = none := by
    cases hfixed : fixed 4 (c :: ds ++ behind) with
    | none => simp only [date, hfixed, bind, Option.bind_none]
    | some read =>
      obtain ⟨year, rest⟩ := read
      have hmarked := marked_of_head_ne 1 12 (head_ne_of_fixed hends (.inl rfl) hminus hfixed)
      simp only [date, hfixed, bind, Option.bind_some, hmarked, Option.bind_none]
  have htime : time clock (c :: ds ++ behind) = none := by
    cases hfixed : fixed 2 (c :: ds ++ behind) with
    | none => simp only [time, hfixed, bind, Option.bind_none]
    | some read =>
      obtain ⟨hour, rest⟩ := read
      have hmarked := marked_of_head_ne 0 59 (head_ne_of_fixed hends (.inr rfl) hcolon hfixed)
      simp only [time, hfixed, bind, Option.bind_some, hmarked, Option.bind_none]
      split <;> rfl
  rw [dateTime, hdate, htime]
  rfl

/-- A numeral begins with nothing but a digit or a sign. -/
theorem Numeral.append_ne_cons {more : List Char} (h : Numeral text n)
    (hc : Decimal.isDigit c = false ∧ c ≠ '+' ∧ c ≠ '-') : text ++ behind ≠ c :: more := by
  obtain ⟨d, ds, rfl, hd, -⟩ := h.exists_cons
  intro hcons
  obtain ⟨rfl, -⟩ := List.cons_eq_cons.mp hcons
  rcases hd with hd | hd | hd
  · exact absurd hd (Bool.eq_false_iff.mp hc.1)
  · exact hc.2.1 hd
  · exact hc.2.2 hd

theorem scalar_of_numeral (h : Numeral text n) (hends : Ends behind) :
    scalar (text ++ behind) = (longWord? n).map fun v => (.value v, behind) := by
  unfold scalar
  split
  · exact absurd ‹_› (h.append_ne_cons (by decide))
  · exact absurd ‹_› (h.append_ne_cons (by decide))
  · exact absurd ‹_› (h.append_ne_cons (by decide))
  · exact absurd ‹_› (h.append_ne_cons (by decide))
  · rw [dateTime_of_numeral h hends, number_of_numeral h hends]
    cases longWord? n <;> rfl

/-- Where a value stands, a numeral is read as its integer if that has 64 bits, and refused otherwise. -/
theorem value_of_numeral (h : Numeral text n) (hends : Ends behind) (fuel depth : Nat) :
    value (fuel + 1) depth (text ++ behind) = (longWord? n).map fun v => (.scalar (.value v), behind) := by
  unfold value
  split
  · exact absurd ‹_› (h.append_ne_cons (by decide))
  · exact absurd ‹_› (h.append_ne_cons (by decide))
  · rw [scalar_of_numeral h hends]
    cases longWord? n <;> rfl

end Toml
end TaskLifecycle
