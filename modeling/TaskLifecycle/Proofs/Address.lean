import Mathlib.Data.List.Basic
import TaskLifecycle.Proofs.Run

/-!
# TaskLifecycle.Proofs.Address — the normal form of an address holds no blanks and no controls

Whatever an address is read from, each part of its normal form is written with characters behind the space only.

* `Clear`: texts of such characters.
* `Url.Percent.clear_encode`: a part written as bytes is clear if its set has the controls and the space.
* `Host.clear_read`: the written form of a host, as an address in brackets, as four bytes or as a name.
* `Url.clear_text`: the normal form of a URL of the web; `Input.clear_url`: an address that is accepted.
-/

namespace TaskLifecycle

/-- Characters behind the space: no blanks and no controls of ASCII. -/
def Clear (cs : List Char) : Prop :=
  ∀ c ∈ cs, 32 < c.toNat

@[simp] theorem clear_nil : Clear [] :=
  List.forall_mem_nil _

@[simp] theorem clear_cons {c : Char} {cs : List Char} : Clear (c :: cs) ↔ 32 < c.toNat ∧ Clear cs :=
  List.forall_mem_cons

@[simp] theorem clear_append {cs ds : List Char} : Clear (cs ++ ds) ↔ Clear cs ∧ Clear ds :=
  List.forall_mem_append

theorem clear_flatMap {α : Type} {f : α → List Char} {xs : List α} (h : ∀ x ∈ xs, Clear (f x)) :
    Clear (xs.flatMap f) := by
  intro c hc
  obtain ⟨x, hx, hcx⟩ := List.mem_flatMap.mp hc
  exact h x hx c hcx

/-- The digits of a number are clear. -/
theorem clear_toString (n : Nat) : Clear (toString n).toList := by
  intro c hc
  rw [Nat.toString_eq_ofList_toDigits, String.toList_ofList] at hc
  have hdigit := Nat.isDigit_of_mem_toDigits (by decide) (by decide) hc
  simp only [Char.isDigit, Bool.and_eq_true, decide_eq_true_eq] at hdigit
  have h48 : 48 ≤ c.val.toNat := hdigit.1
  show 32 < c.val.toNat
  omega

namespace Url

/-! ## Bytes -/

namespace Percent

theorem clear_hexDigit {d : Nat} (h : d < 16) : 32 < (hexDigit d).toNat := by
  have hall : ∀ d < 16, 32 < (hexDigit d).toNat := by decide
  exact hall d h

theorem clear_byte (b : UInt8) : Clear (byte b) := by
  have hb : b.toNat < 256 := b.toNat_lt
  have hhigh : b.toNat / 16 < 16 := by omega
  have hlow : b.toNat % 16 < 16 := by omega
  rw [byte]
  simp only [clear_cons, clear_nil, and_true]
  exact ⟨by decide, clear_hexDigit hhigh, clear_hexDigit hlow⟩

/-- What a set leaves as it is comes behind the space. -/
def Covers (set : Char → Bool) : Prop :=
  ∀ c, set c = false → 32 < c.toNat

theorem covers_of_always {set : Char → Bool} (halways : ∀ c, always c = true → set c = true) (hspace : set ' ' = true) :
    Covers set := by
  intro c hc
  have hcontrol : always c = false := by
    by_contra hne
    rw [halways c (by simpa using hne)] at hc
    cases hc
  have h32 : ¬ c.toNat < 32 := by
    intro hlt
    simp [always, hlt] at hcontrol
  have hne : c.toNat ≠ 32 := by
    intro heq
    have hchar : c = ' ' := Char.toNat_inj.mp heq
    rw [hchar, hspace] at hc
    cases hc
  omega

theorem covers_inFragment : Covers inFragment :=
  covers_of_always (fun c h => by simp [inFragment, h]) (by decide)

theorem covers_inPath : Covers inPath :=
  covers_of_always (fun c h => by simp [inPath, inFragment, h]) (by decide)

theorem covers_inUser : Covers inUser :=
  covers_of_always (fun c h => by simp [inUser, inPath, inFragment, h]) (by decide)

theorem covers_inQuery : Covers inQuery :=
  covers_of_always (fun c h => by simp [inQuery, h]) (by decide)

theorem clear_encode {set : Char → Bool} (h : Covers set) (cs : List Char) : Clear (encode set cs) := by
  refine clear_flatMap fun c _ => ?_
  cases hc : set c with
  | true => exact clear_flatMap fun b _ => clear_byte b
  | false =>
    simp only [Bool.false_eq_true, if_false, clear_cons, clear_nil, and_true]
    exact h c hc

end Percent

/-! ## Paths -/

namespace Path

theorem mem_of_mem_back {segment : List Char} {kept : List (List Char)} (h : segment ∈ back kept) : segment ∈ kept := by
  cases kept with
  | nil => cases h
  | cons last kept =>
    rw [back] at h
    split at h
    · exact h
    · exact List.mem_cons_of_mem _ h

/-- The segments that are kept are segments of the path, or empty. -/
theorem mem_of_mem_keep {segment : List Char} {kept segments : List (List Char)} (h : segment ∈ keep kept segments) :
    segment = [] ∨ segment ∈ kept ∨ segment ∈ segments := by
  induction kept, segments using keep.induct with
  | case1 kept => exact .inr (.inl h)
  | case2 kept last hdouble =>
    rw [keep, if_pos hdouble] at h
    rcases List.mem_cons.mp h with h | h
    · exact .inl h
    · exact .inr (.inl (mem_of_mem_back h))
  | case3 kept last hdouble hdot =>
    rw [keep, if_neg hdouble, if_pos hdot] at h
    rcases List.mem_cons.mp h with h | h
    · exact .inl h
    · exact .inr (.inl h)
  | case4 kept last hdouble hdot =>
    rw [keep, if_neg hdouble, if_neg hdot] at h
    rcases List.mem_cons.mp h with h | h
    · exact .inr (.inr (List.mem_singleton.mpr h))
    · exact .inr (.inl h)
  | case5 kept first rest hrest hdouble ih =>
    rw [keep, if_pos hdouble] at h
    · rcases ih h with h | h | h
      · exact .inl h
      · exact .inr (.inl (mem_of_mem_back h))
      · exact .inr (.inr (List.mem_cons_of_mem _ h))
    · exact hrest
  | case6 kept first rest hrest hdouble hdot ih =>
    rw [keep, if_neg hdouble, if_pos hdot] at h
    · rcases ih h with h | h | h
      · exact .inl h
      · exact .inr (.inl h)
      · exact .inr (.inr (List.mem_cons_of_mem _ h))
    · exact hrest
  | case7 kept first rest hrest hdouble hdot ih =>
    rw [keep, if_neg hdouble, if_neg hdot] at h
    · rcases ih h with h | h | h
      · exact .inl h
      · rcases List.mem_cons.mp h with h | h
        · exact .inr (.inr (by simp [h]))
        · exact .inr (.inl h)
      · exact .inr (.inr (List.mem_cons_of_mem _ h))
    · exact hrest

theorem clear_normal (cs : List Char) : Clear (normal cs) := by
  unfold normal
  refine clear_flatMap fun segment hsegment => clear_cons.mpr ⟨by decide, ?_⟩
  rw [List.mem_reverse] at hsegment
  rcases mem_of_mem_keep hsegment with h | h | h
  · rw [h]
    exact clear_nil
  · cases h
  · obtain ⟨part, -, rfl⟩ := List.mem_map.mp h
    exact Percent.clear_encode Percent.covers_inPath part

end Path
end Url

/-! ## Hosts -/

namespace Host

theorem clear_joinWith {sep : List Char} {parts : List (List Char)} (hsep : Clear sep) (h : ∀ part ∈ parts, Clear part) :
    Clear (joinWith sep parts) := by
  induction parts using joinWith.induct with
  | case1 => exact clear_nil
  | case2 part => exact h part (by simp)
  | case3 part parts hne ih =>
    rw [joinWith, clear_append, clear_append]
    · exact ⟨⟨h part (by simp), hsep⟩, ih fun part' h' => h part' (List.mem_cons_of_mem _ h')⟩
    · exact hne

namespace Ipv4

theorem clear_write (address : Nat) : Clear (write address).toList := by
  have hdot : Clear ".".toList := by simp
  simp only [write, String.toList_append, clear_append]
  exact ⟨⟨⟨⟨⟨⟨clear_toString _, hdot⟩, clear_toString _⟩, hdot⟩, clear_toString _⟩, hdot⟩, clear_toString _⟩

end Ipv4

namespace Ipv6

theorem clear_hexChar {d : Nat} (h : d < 16) : 32 < (hexChar d).toNat := by
  have hall : ∀ d < 16, 32 < (hexChar d).toNat := by decide
  exact hall d h

theorem clear_hex (n : Nat) : Clear (hex n) := by
  induction n using hex.induct with
  | case1 n h =>
    rw [hex, if_pos h, clear_cons]
    exact ⟨clear_hexChar h, clear_nil⟩
  | case2 n h ih =>
    rw [hex, if_neg h, clear_append, clear_cons]
    exact ⟨ih, clear_hexChar (Nat.mod_lt n (by decide)), clear_nil⟩

theorem clear_pieces (ps : List Nat) : Clear (joinWith [':'] (ps.map hex)) := by
  refine clear_joinWith (by simp) fun part hpart => ?_
  obtain ⟨n, -, rfl⟩ := List.mem_map.mp hpart
  exact clear_hex n

theorem clear_write (ps : List Nat) : Clear (write ps) := by
  have hcolons : Clear [':', ':'] := by simp
  have hclose : Clear [']'] := by simp
  unfold write
  dsimp only
  rw [clear_append, clear_cons]
  refine ⟨⟨by decide, ?_⟩, hclose⟩
  split
  · exact clear_pieces _
  · rw [clear_append, clear_append]
    exact ⟨⟨clear_pieces _, hcolons⟩, clear_pieces _⟩

end Ipv6

/-- A name that holds a forbidden character is none. -/
theorem clear_toAscii {cs name : List Char} (h : toAscii cs = some name) : Clear name := by
  unfold toAscii at h
  simp only [Option.bind_eq_bind, Option.bind_eq_some_iff] at h
  obtain ⟨mapped, -, labels, -, h⟩ := h
  split at h
  · cases h
  · split at h
    · cases h
    · rename_i hallowed
      obtain rfl := Option.some.inj h
      intro c hc
      have hc' : isForbidden c = false := by
        rw [Bool.not_eq_true, List.any_eq_false] at hallowed
        simpa using hallowed c hc
      simp only [isForbidden, Bool.or_eq_false_iff, decide_eq_false_iff_not] at hc'
      omega

/-- The written form of a host, as an address in brackets, as four bytes or as a name. -/
theorem clear_read {cs host : List Char} (h : read cs = .ok host) : Clear host := by
  unfold read at h
  split at h
  · rename_i result hbracketed
    subst h
    unfold bracketed at hbracketed
    split at hbracketed
    · split at hbracketed
      · split at hbracketed
        · rename_i ps _
          obtain rfl := Except.ok.inj (Option.some.inj hbracketed)
          exact Ipv6.clear_write ps
        · cases Option.some.inj hbracketed
      · cases Option.some.inj hbracketed
    · cases hbracketed
  · split at h
    · cases h
    · rename_i name hname
      obtain ⟨decoded, -, hascii⟩ := Option.bind_eq_some_iff.mp hname
      split at h
      · cases h
      · split at h
        · split at h
          · rename_i address _
            obtain rfl := Except.ok.inj h
            exact Ipv4.clear_write address
          · cases h
        · obtain rfl := Except.ok.inj h
          exact clear_toAscii hascii

end Host

/-! ## Addresses of the web -/

/-- A computation whose fault is put in other words succeeds only by itself. -/
theorem eq_ok_of_mapError {ε ε' α : Type} {x : Except ε α} {f : ε → ε'} {a : α} (h : x.mapError f = .ok a) :
    x = .ok a := by
  cases x with
  | error e => cases h
  | ok b => exact congrArg _ (Except.ok.inj h)

namespace Url

/-- Every part of a URL but its scheme is clear. -/
structure Web.Clean (w : Web) : Prop where
  user : Clear w.user
  password : Clear w.password
  host : Clear w.host
  path : Clear w.path
  query : ∀ cs ∈ w.query, Clear cs
  fragment : ∀ cs ∈ w.fragment, Clear cs

theorem clear_splitTail (cs : List Char) :
    (∀ query ∈ (splitTail cs).2.1, Clear query) ∧ ∀ fragment ∈ (splitTail cs).2.2, Clear fragment := by
  unfold splitTail
  dsimp only
  constructor
  · split
    · simp
    · rintro query hquery
      obtain rfl := Option.some.inj hquery
      exact Percent.clear_encode Percent.covers_inQuery _
  · split
    · simp
    · rintro fragment hfragment
      obtain rfl := Option.some.inj hfragment
      exact Percent.clear_encode Percent.covers_inFragment _

theorem clean_readWeb {scheme cs : List Char} {own : Option Nat} {w : Web} (h : readWeb scheme own cs = .ok w) :
    w.Clean := by
  unfold readWeb at h
  dsimp only at h
  split at h
  · cases h
  · obtain ⟨host, hhost, h⟩ := exists_of_bind_eq_ok h
    obtain ⟨port, -, h⟩ := exists_of_bind_eq_ok h
    obtain rfl := Except.ok.inj h
    exact {
      user := Percent.clear_encode Percent.covers_inUser _
      password := Percent.clear_encode Percent.covers_inUser _
      host := Host.clear_read (eq_ok_of_mapError hhost)
      path := Path.clear_normal _
      query := (clear_splitTail _).1
      fragment := (clear_splitTail _).2 }

/-- The normal form of a URL whose parts are clear. -/
theorem Web.Clean.clear_text {w : Web} (h : w.Clean) (hscheme : Clear w.scheme) : Clear w.text := by
  have hcredentials : Clear w.credentials := by
    unfold Web.credentials
    dsimp only
    split
    · exact clear_nil
    · rw [clear_append, clear_append]
      refine ⟨⟨h.user, ?_⟩, by simp⟩
      split
      · exact clear_nil
      · exact clear_cons.mpr ⟨by decide, h.password⟩
  have hport : Clear ((w.port.map fun n => ':' :: (toString n).toList).getD []) := by
    cases w.port with
    | none => exact clear_nil
    | some n => exact clear_cons.mpr ⟨by decide, clear_toString n⟩
  have hquery : Clear ((w.query.map ('?' :: ·)).getD []) := by
    cases hq : w.query with
    | none => exact clear_nil
    | some cs => exact clear_cons.mpr ⟨by decide, h.query cs hq⟩
  have hfragment : Clear ((w.fragment.map ('#' :: ·)).getD []) := by
    cases hf : w.fragment with
    | none => exact clear_nil
    | some cs => exact clear_cons.mpr ⟨by decide, h.fragment cs hf⟩
  have hslashes : Clear [':', '/', '/'] := by simp
  unfold Web.text
  simp only [clear_append]
  exact ⟨⟨⟨⟨⟨⟨⟨hscheme, hslashes⟩, hcredentials⟩, h.host⟩, hport⟩, h.path⟩, hquery⟩, hfragment⟩

theorem clean_read {s : String} {w : Web} (h : read s = .ok (.web w)) : w.Clean := by
  unfold read at h
  split at h
  · cases h
  · rename_i scheme rest _
    split at h
    · rename_i own _
      cases hr : readWeb scheme own rest with
      | error fault =>
        rw [hr] at h
        cases h
      | ok w' =>
        rw [hr] at h
        cases h
        exact clean_readWeb hr
    · -- of other schemes only the scheme is kept
      generalize (if String.ofList scheme = "file" then checkFile rest else checkOther rest) = checked at h
      cases checked with
      | error fault => cases h
      | ok _ => cases h

end Url

/-- An address that is accepted is written with characters behind the space. -/
theorem Input.clear_url {field raw u : String} (h : Input.url field raw = .ok u) : Clear u.toList := by
  unfold Input.url at h
  dsimp only at h
  split at h
  · cases h
  · split at h
    · cases h
    · cases h
    · rename_i parts hparts
      split at h
      · rename_i hscheme
        obtain rfl := Except.ok.inj h
        rw [String.toList_ofList]
        refine (Url.clean_read hparts).clear_text ?_
        rw [← String.toList_ofList (l := parts.scheme)]
        rcases hscheme with hs | hs
        · rw [hs]
          simp
        · rw [hs]
          simp
      · cases h

end TaskLifecycle
