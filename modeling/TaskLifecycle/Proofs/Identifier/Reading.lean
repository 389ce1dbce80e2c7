import Mathlib.Data.List.TakeWhile
import TaskLifecycle.Proofs.Identifier

/-!
# TaskLifecycle.Proofs.Identifier.Reading — which texts are identifiers

* `splitLast_append`, `exists_split`: a text with an underscore falls into what stands before and behind the last one.
* `Kind.ofTag?_eq_some_iff`: the kinds and their tags.
* `Spells`: text that is an identifier of a kind and a number; `Blames`: why text is none.
* `read_of_spells`, `read_cases`, `read_eq_ok_iff`: what is read, and what is said of all else.
* `read_of_spelled`: reading accepts exactly the identifiers, those among them that are given out.
-/

namespace TaskLifecycle
namespace Identifier

variable {s tag digits : String} {kind : Kind} {number : Nat} {fault : Fault}

/-! ## The last underscore -/

theorem splitLast_append {cs ds : List Char} (h : '_' ∉ ds) : splitLast (cs ++ '_' :: ds) = some (cs, ds) := by
  have hall : ∀ c ∈ ds.reverse, decide (c ≠ '_') = true := by
    intro c hc
    exact decide_eq_true fun he => h (he ▸ List.mem_reverse.mp hc)
  have htail : ((cs ++ '_' :: ds).reverse.takeWhile (· ≠ '_')).reverse = ds := by
    rw [List.reverse_append, List.reverse_cons, List.append_assoc, List.takeWhile_append_of_pos hall,
      List.singleton_append, List.takeWhile_cons_of_neg (by decide), List.append_nil, List.reverse_reverse]
  have hlength : (cs ++ '_' :: ds).length - ds.length - 1 = cs.length := by
    rw [List.length_append, List.length_cons]
    omega
  have hne : ds.length ≠ (cs ++ '_' :: ds).length := by
    rw [List.length_append, List.length_cons]
    omega
  simp only [splitLast, htail, if_neg hne, hlength, List.take_left]

theorem splitLast_of_notMem {cs : List Char} (h : '_' ∉ cs) : splitLast cs = none := by
  have hall : ∀ c ∈ cs.reverse, decide (c ≠ '_') = true := by
    intro c hc
    exact decide_eq_true fun he => h (he ▸ List.mem_reverse.mp hc)
  have htail : (cs.reverse.takeWhile (· ≠ '_')).reverse = cs := by
    rw [List.takeWhile_eq_self_iff.mpr hall, List.reverse_reverse]
  simp only [splitLast, htail, if_true]

/-- A text with an underscore has a last one. -/
theorem exists_split (h : '_' ∈ s.toList) : ∃ tag digits : String, s = tag ++ "_" ++ digits ∧ '_' ∉ digits.toList := by
  obtain ⟨behind, before, hs, hnone⟩ := List.eq_append_cons_of_mem (List.mem_reverse.mpr h)
  refine ⟨String.ofList before.reverse, String.ofList behind.reverse, String.toList_injective ?_, ?_⟩
  · rw [← List.reverse_reverse s.toList, hs]
    simp [String.toList_append]
  · rwa [String.toList_ofList, List.mem_reverse]

theorem splitLast_toList (h : '_' ∉ digits.toList) :
    splitLast (tag ++ "_" ++ digits).toList = some (tag.toList, digits.toList) := by
  rw [String.toList_append, String.toList_append, List.append_assoc]
  exact splitLast_append h

/-! ## Tags -/

theorem Kind.mem_all (kind : Kind) : kind ∈ Kind.all := by
  cases kind <;> decide

theorem Kind.tag_injective {kind kind' : Kind} (h : kind.tag = kind'.tag) : kind = kind' := by
  cases kind <;> cases kind' <;> first | rfl | exact absurd h (by decide)

/-- A text is read as the kind whose tag it is. -/
theorem Kind.ofTag?_eq_some_iff : Kind.ofTag? tag = some kind ↔ kind.tag = tag := by
  rw [Kind.ofTag?]
  constructor
  · intro h
    have htag : (kind.tag == tag) = true := List.find?_some (p := fun k : Kind => k.tag == tag) h
    exact eq_of_beq htag
  · rintro rfl
    cases h : Kind.all.find? fun k => k.tag == kind.tag with
    | none => exact absurd (beq_self_eq_true kind.tag) (List.find?_eq_none.mp h kind kind.mem_all)
    | some kind' =>
      have htag : (kind'.tag == kind.tag) = true := List.find?_some (p := fun k : Kind => k.tag == kind.tag) h
      rw [Kind.tag_injective (eq_of_beq htag)]

/-! ## Identifiers as text -/

/-- Text that is an identifier: the tag of a kind, an underscore, and a number below 2^64 in decimal digits, at least one,
behind a plus or nothing. -/
inductive Spells (s : String) (kind : Kind) (number : Nat) : Prop where
  | intro (digits : String) (parts : s = kind.tag ++ "_" ++ digits) (writes : Decimal.WritesNat digits.toList number)
    (range : number < Nat.pow 2 64)

/-- Why text is no identifier: it has no underscore; what stands before the last one is no tag; what stands behind it writes
no number below 2^64. -/
inductive Blames (s : String) : Fault → Prop where
  | noUnderscore (none : '_' ∉ s.toList) : Blames s (.noUnderscore s)
  | unknownTag {tag digits : String} (parts : s = tag ++ "_" ++ digits) (last : '_' ∉ digits.toList)
    (unknown : ∀ kind : Kind, kind.tag ≠ tag) : Blames s (.unknownTag tag)
  | badNumber {kind : Kind} {digits : String} {fault : Decimal.Fault} (parts : s = kind.tag ++ "_" ++ digits)
    (last : '_' ∉ digits.toList) (bad : ∀ number, Decimal.WritesNat digits.toList number → Nat.pow 2 64 ≤ number) :
    Blames s (.badNumber s fault)

theorem underscore_notMem_of_writesNat {cs : List Char} (h : Decimal.WritesNat cs number) : '_' ∉ cs := by
  intro hmem
  cases h with
  | digits _ all => exact absurd (all '_' hmem) (by decide)
  | plus _ all =>
    rcases List.mem_cons.mp hmem with h | h
    · exact absurd h (by decide)
    · exact absurd (all '_' h) (by decide)

/-- What a text with a tag before its last underscore is read as. -/
theorem read_of_tag (h : '_' ∉ digits.toList) :
    read (kind.tag ++ "_" ++ digits) =
      match Decimal.readNatural (UInt64.size - 1) digits.toList with
      | .ok number => .ok (kind, number)
      | .error fault => .error (.badNumber (kind.tag ++ "_" ++ digits) fault) := by
  have htag : readTag (String.ofList kind.tag.toList) = .ok kind := by
    rw [String.ofList_toList, readTag, Kind.ofTag?_eq_some_iff.mpr rfl]
  cases hnumber : Decimal.readNatural (UInt64.size - 1) digits.toList with
  | ok number => simp only [read, splitLast_toList h, htag, hnumber]
  | error fault => simp only [read, splitLast_toList h, htag, hnumber]

theorem read_of_spells (h : Spells s kind number) : read s = .ok (kind, number) := by
  obtain ⟨digits, rfl, hwrites, hrange⟩ := h
  have hnumber : Decimal.readNatural (UInt64.size - 1) digits.toList = .ok number :=
    Decimal.readNatural_eq_ok_iff.mpr ⟨hwrites, Nat.le_sub_one_of_lt hrange⟩
  rw [read_of_tag (underscore_notMem_of_writesNat hwrites), hnumber]

/-- Every text is read as the identifier that it is, or refused for what is wrong with it. -/
theorem read_cases (s : String) :
    (∃ kind number, read s = .ok (kind, number) ∧ Spells s kind number) ∨ ∃ fault, read s = .error fault ∧ Blames s fault := by
  by_cases hmem : '_' ∈ s.toList
  · obtain ⟨tag, digits, rfl, hlast⟩ := exists_split hmem
    cases htag : Kind.ofTag? tag with
    | none =>
      have hunknown (kind : Kind) : kind.tag ≠ tag := by
        intro h
        rw [Kind.ofTag?_eq_some_iff.mpr h] at htag
        cases htag
      refine .inr ⟨.unknownTag tag, ?_, .unknownTag rfl hlast hunknown⟩
      simp only [read, splitLast_toList hlast, String.ofList_toList, readTag, htag]
    | some kind =>
      obtain rfl := Kind.ofTag?_eq_some_iff.mp htag
      rw [read_of_tag hlast]
      cases hread : Decimal.readNatural (UInt64.size - 1) digits.toList with
      | ok number =>
        obtain ⟨hwrites, hle⟩ := Decimal.readNatural_eq_ok_iff.mp hread
        exact .inl ⟨kind, number, rfl, digits, rfl, hwrites, Nat.lt_of_le_of_lt hle (by decide)⟩
      | error fault =>
        refine .inr ⟨_, rfl, .badNumber rfl hlast fun number hwrites => ?_⟩
        by_contra hlt
        rw [Decimal.readNatural_eq_ok_iff.mpr ⟨hwrites, Nat.le_sub_one_of_lt (Nat.lt_of_not_le hlt)⟩] at hread
        cases hread
  · refine .inr ⟨.noUnderscore s, ?_, .noUnderscore hmem⟩
    simp only [read, splitLast_of_notMem hmem]

theorem read_eq_ok_iff : read s = .ok (kind, number) ↔ Spells s kind number := by
  refine ⟨fun h => ?_, read_of_spells⟩
  rcases read_cases s with ⟨kind', number', hread, hspells⟩ | ⟨fault, hread, -⟩
  · rw [h] at hread
    cases hread
    exact hspells
  · rw [h] at hread
    cases hread

theorem spells_text (h : number < Nat.pow 2 64) : Spells (text kind number) kind number := by
  refine ⟨Decimal.text number, rfl, ?_, h⟩
  rw [Decimal.text, String.toList_ofList]
  exact Decimal.writesNat_digits number

/-- The identifier of every kind with every number of 64 bits is read as that kind and that number.  Of all texts exactly
those are read that have a tag, an underscore and a number of 64 bits in decimal digits, which a plus may precede; every
other one is refused as an invalid input, for what is wrong with it. -/
theorem read_of_spelled :
    (∀ kind number, number < Nat.pow 2 64 → read (text kind number) = .ok (kind, number)) ∧
    ∀ s, (∀ kind number, read s = .ok (kind, number) ↔ Spells s kind number) ∧
      ((∀ kind number, ¬ Spells s kind number) → ∃ fault, read s = .error fault ∧ Blames s fault) := by
  refine ⟨fun kind number h => read_of_spells (spells_text h), fun s => ⟨fun kind number => read_eq_ok_iff, fun h => ?_⟩⟩
  rcases read_cases s with ⟨kind, number, -, hspells⟩ | hrefused
  · exact absurd hspells (h kind number)
  · exact hrefused

/-- One number too large for its bits. -/
def overflowingText : String :=
  "wrb_18446744073709551616"

theorem read_overflowingText : read overflowingText = .error (.badNumber overflowingText .tooLarge) := by
  rfl

/-- The largest number of a tag that other tags are parts of, and the one after it. -/
theorem read_of_largestNumber :
    (18446744073709551615 < Nat.pow 2 64 ∧ ∀ kind number, ¬ Spells overflowingText kind number) ∧
      read (text .workflowRunBlock 18446744073709551615) = .ok (.workflowRunBlock, 18446744073709551615) ∧
      ∃ fault, read overflowingText = .error fault ∧ Blames overflowingText fault := by
  have hlargest : 18446744073709551615 < Nat.pow 2 64 := by decide
  have hnone (kind : Kind) (number : Nat) : ¬ Spells overflowingText kind number := by
    intro h
    have hread := read_of_spells h
    rw [read_overflowingText] at hread
    cases hread
  exact ⟨⟨hlargest, hnone⟩, read_of_spelled.1 _ _ hlargest, (read_of_spelled.2 overflowingText).2 hnone⟩

end Identifier
end TaskLifecycle
