import Mathlib.Data.List.SplitBy
import TaskLifecycle.Proofs.Decimal
import TaskLifecycle.Sql

/-!
# TaskLifecycle.Proofs.Sql.Token — the tokens of a statement

A statement is built piece by piece, and is read as one text.  Words must not run into each other where two pieces meet.

* `Token`, `tokens`: what a text consists of.
* `tokens_append`: the tokens of two texts one after another, where they do not meet within a word.
* `Clause.tokens`, `tokens_clause`: what a clause consists of; `tokens_allParts`: the clauses of a statement keep apart.
-/

namespace TaskLifecycle
namespace Sql

/-! ## Tokens -/

/-- A word or a sign, or the place of a value.  Places are counted from 1. -/
inductive Token where
  | text (s : String)
  | place (n : Nat)
deriving DecidableEq, Repr

/-- The characters of names, key words, numbers and places. -/
def inWord (c : Char) : Bool :=
  c.isAlphanum || c == '_' || c == '$'

def Token.ofChars : List Char → Token
  | '$' :: ds => if ds.all Decimal.isDigit then .place (Decimal.value ds) else .text (String.ofList ('$' :: ds))
  | cs => .text (String.ofList cs)

/-- The tokens of a text: words are as long as can be, every other character stands alone, and blanks are not tokens. -/
def tokens (s : String) : List Token :=
  ((s.toList.splitBy fun a b => inWord a && inWord b).filter (· ≠ [' '])).map Token.ofChars

/-! ## Where texts meet -/

/-- The text begins outside of a word. -/
def Opens (s : String) : Prop :=
  ∀ c ∈ s.toList.head?, inWord c = false

/-- The text ends outside of a word. -/
def Closes (s : String) : Prop :=
  ∀ c ∈ s.toList.getLast?, inWord c = false

instance (s : String) : Decidable (Opens s) :=
  Option.decidableForallMem s.toList.head?

instance (s : String) : Decidable (Closes s) :=
  Option.decidableForallMem s.toList.getLast?

theorem opens_empty : Opens "" := by
  intro c hc
  cases hc

theorem opens_append {a : String} (b : String) (ha : Opens a) (hne : a ≠ "") : Opens (a ++ b) := by
  intro c hc
  have hne' : a.toList ≠ [] := fun h => hne (String.toList_inj.mp h)
  rw [String.toList_append, List.head?_append_of_ne_nil _ hne'] at hc
  exact ha c hc

/-- Texts that do not meet within a word are read one after another. -/
theorem tokens_append {a b : String} (h : Closes a ∨ Opens b) : tokens (a ++ b) = tokens a ++ tokens b := by
  have hmeet : ∀ c ∈ a.toList.getLast?, ∀ d ∈ b.toList.head?, (inWord c && inWord d) = false := by
    intro c hc d hd
    rcases h with h | h
    · rw [h c hc, Bool.false_and]
    · rw [h d hd, Bool.and_false]
  unfold tokens
  rw [String.toList_append, List.splitBy_append hmeet, List.filter_append, List.map_append]

/-- A text within a word is one token. -/
theorem tokens_word {c : Char} {cs : List Char} (h : ∀ d ∈ c :: cs, inWord d = true) :
    tokens (String.ofList (c :: cs)) = [Token.ofChars (c :: cs)] := by
  have hchain : (c :: cs).IsChain fun a b => (inWord a && inWord b) = true := by
    refine List.Pairwise.isChain (List.pairwise_of_forall_mem_list fun a ha b hb => ?_)
    rw [h a ha, h b hb, Bool.and_self]
  have hblank : c :: cs ≠ [' '] := by
    intro he
    have hc := h c (List.mem_cons_self ..)
    rw [(List.cons.inj he).1] at hc
    exact absurd hc (by decide)
  unfold tokens
  rw [String.toList_ofList, List.splitBy_of_isChain (List.cons_ne_nil c cs) hchain,
    List.filter_cons, if_pos (decide_eq_true hblank)]
  rfl

/-- A placeholder is read as the place that its digits write. -/
theorem tokens_place (n : Nat) : tokens ("$" ++ Decimal.text n) = [.place n] := by
  have hdigits := Decimal.isDigit_of_mem_digits n
  have hword : ∀ c ∈ '$' :: Decimal.digits n, inWord c = true := by
    intro c hc
    rcases List.mem_cons.mp hc with rfl | hc
    · decide
    · have h := hdigits c hc
      simp only [Decimal.isDigit, Bool.and_eq_true, decide_eq_true_eq] at h
      have hc' : c.isDigit = true := by
        simp only [Char.isDigit, Bool.and_eq_true, decide_eq_true_eq]
        exact h
      rw [inWord, Char.isAlphanum, hc', Bool.or_true]
      rfl
  have htext : "$" ++ Decimal.text n = String.ofList ('$' :: Decimal.digits n) := by
    rw [Decimal.text, ← String.ofList_append]
    rfl
  rw [htext, tokens_word hword, Token.ofChars, if_pos (List.all_eq_true.mpr hdigits), Decimal.value_digits]

/-- Names with commas between them. -/
theorem tokens_intercalate {names : List String} (h : ∀ name ∈ names, tokens name = [.text name]) :
    tokens (String.intercalate ", " names) = (names.map .text).intersperse (.text ",") := by
  have hcomma : tokens ", " = [.text ","] := by decide
  induction names with
  | nil => rfl
  | cons a names ih =>
    have ha := h a (List.mem_cons_self ..)
    cases names with
    | nil => exact ha
    | cons b names =>
      have hrest := ih fun name hname => h name (List.mem_cons_of_mem _ hname)
      rw [String.intercalate_cons_cons, String.append_assoc, tokens_append (.inr (opens_append _ (by decide) (by decide))),
        tokens_append (.inl (by decide)), ha, hcomma, hrest]
      rfl

/-! ## Pieces -/

theorem render_append (n : Nat) (ps qs : List Part) :
    render n (ps ++ qs) = render n ps ++ render (n + (values ps).length) qs := by
  induction ps generalizing n with
  | nil => exact String.empty_append.symm
  | cons p ps ih =>
    cases p with
    | words s => rw [List.cons_append, render, ih, render, values, String.append_assoc]
    | value v =>
      have hlength : n + (values (.value v :: ps)).length = n + 1 + (values ps).length := by
        rw [values, List.length_cons]
        omega
      rw [List.cons_append, render, ih, render, hlength, ← String.append_assoc]

theorem values_append (ps qs : List Part) : values (ps ++ qs) = values ps ++ values qs := by
  induction ps with
  | nil => rfl
  | cons p ps ih =>
    cases p with
    | words s => exact ih
    | value v => exact congrArg (v :: ·) ih

theorem render_words (n : Nat) (s : String) : render n [.words s] = s :=
  String.append_empty

theorem opens_words {n : Nat} {s : String} {ps : List Part} (hs : Opens s) (hne : s ≠ "") :
    Opens (render n (.words s :: ps)) :=
  opens_append _ hs hne

theorem tokens_words {n : Nat} {s : String} {ps : List Part} (h : Closes s ∨ Opens (render n ps)) :
    tokens (render n (.words s :: ps)) = tokens s ++ tokens (render n ps) :=
  tokens_append h

theorem tokens_last (n : Nat) (v : Value) : tokens (render n [.value v]) = [.place (n + 1)] := by
  rw [render, render, String.append_empty, tokens_place]

theorem tokens_value {n : Nat} (v : Value) {ps : List Part} (h : Opens (render (n + 1) ps)) :
    tokens (render n (.value v :: ps)) = .place (n + 1) :: tokens (render (n + 1) ps) := by
  rw [render, tokens_append (.inr h), tokens_place]
  rfl

/-! ## Clauses -/

/-- The tokens of a condition behind `n` values. -/
def Condition.tokens (n : Nat) : Condition → List Token
  | .equals column _ => [.text column.name, .text "=", .place (n + 1)]
  | .absent column => [.text column.name, .text "IS", .text "NULL"]
  | .among column _ => [.text column.name, .text "=", .text "ANY", .text "(", .place (n + 1), .text ")"]

theorem tokens_condition (n : Nat) (c : Condition) : tokens (render n c.parts) = c.tokens n := by
  cases c with
  | equals column s =>
    have hname : tokens (column.name ++ " = ") = [.text column.name, .text "="] := by cases column <;> decide
    have hcloses : Closes (column.name ++ " = ") := by cases column <;> decide
    rw [Condition.parts, tokens_words (.inl hcloses), hname, tokens_last]
    rfl
  | absent column =>
    rw [Condition.parts, render_words]
    cases column <;> rfl
  | among column texts =>
    have hname : tokens (column.name ++ " = ANY(") = [.text column.name, .text "=", .text "ANY", .text "("] := by
      cases column <;> decide
    have hcloses : Closes (column.name ++ " = ANY(") := by cases column <;> decide
    have hend : tokens ")" = [.text ")"] := by decide
    rw [Condition.parts, tokens_words (.inl hcloses), hname, tokens_value _ (opens_words (by decide) (by decide)),
      render_words, hend]
    rfl

/-- The tokens of a clause behind `n` values. -/
def Clause.tokens (hasCondition : Bool) (n : Nat) : Clause → List Token
  | .condition c => .text (if hasCondition then "AND" else "WHERE") :: c.tokens n
  | .order key direction =>
    [.text "ORDER", .text "BY", .text key.word, .text (directionWord direction), .text ",", .text "task_id",
      .text (directionWord direction)]
  | .page _ _ => [.text "LIMIT", .place (n + 1), .text "OFFSET", .place (n + 2)]
  | .lock => [.text "FOR", .text "UPDATE"]

theorem tokens_clause (hasCondition : Bool) (n : Nat) (c : Clause) :
    tokens (render n (c.parts hasCondition)) = c.tokens hasCondition n := by
  cases c with
  | condition c =>
    have hlead : tokens (if hasCondition then " AND " else " WHERE ") =
        [.text (if hasCondition then "AND" else "WHERE")] := by cases hasCondition <;> decide
    have hcloses : Closes (if hasCondition then " AND " else " WHERE ") := by cases hasCondition <;> decide
    rw [Clause.parts, tokens_words (.inl hcloses), hlead, tokens_condition]
    rfl
  | order key direction =>
    rw [Clause.parts, render_words]
    cases key <;> cases direction <;> rfl
  | page limit offset =>
    have hlimit : tokens " LIMIT " = [.text "LIMIT"] := by decide
    have hoffset : tokens " OFFSET " = [.text "OFFSET"] := by decide
    rw [Clause.parts, tokens_words (.inl (by decide)), hlimit, tokens_value _ (opens_words (by decide) (by decide)),
      tokens_words (.inl (by decide)), hoffset, tokens_last]
    rfl
  | lock =>
    rw [Clause.parts, render_words]
    rfl

theorem opens_allParts (hasCondition : Bool) (n : Nat) (cs : List Clause) :
    Opens (render n (Clause.allParts hasCondition cs)) := by
  cases cs with
  | nil => exact opens_empty
  | cons c cs =>
    cases c with
    | condition c => cases hasCondition <;> exact opens_words (by decide) (by decide)
    | order key direction => cases key <;> cases direction <;> exact opens_words (by decide) (by decide)
    | page limit offset => exact opens_words (by decide) (by decide)
    | lock => exact opens_words (by decide) (by decide)

/-- The tokens of several clauses are those of one after those of another. -/
theorem tokens_allParts (hasCondition : Bool) (n : Nat) (c : Clause) (cs : List Clause) :
    tokens (render n (Clause.allParts hasCondition (c :: cs))) = c.tokens hasCondition n ++
      tokens (render (n + (values (c.parts hasCondition)).length)
        (Clause.allParts (hasCondition || c.isCondition) cs)) := by
  rw [Clause.allParts, render_append, tokens_append (.inr (opens_allParts _ _ _)), tokens_clause]

end Sql
end TaskLifecycle
