import Mathlib.Data.List.Chain
import TaskLifecycle.Proofs.Sql.Token

/-!
# TaskLifecycle.Proofs.Sql.Template — statements as a database reads them

The database is sent a text with places for values, and the values.

* `Template.read`: what a text asks for, with places for the values; it is none where the text is not a query of tasks.
* `Template.fill`: the query with the values in their places.
* `Statement.query`: what the text and the values of a statement ask for together.
* `query_conditions`, `query_page`: they ask for what its clauses say.
-/

namespace TaskLifecycle
namespace Sql

/-! ## Templates -/

/-- A test of a row against the value at a place. -/
inductive Test where
  | equals (column : Column) (place : Nat)
  | among (column : Column) (place : Nat)
  | absent (column : Column)
deriving DecidableEq, Repr

/-- What rows are sorted by. -/
inductive SortColumn where
  | moment (key : OrderKey)
  | text (column : Column)
deriving DecidableEq, Repr

structure SortKey where
  column : SortColumn
  direction : Direction
deriving DecidableEq, Repr

/-- What is asked of the rows: some of their columns, or how many there are. -/
inductive Selected where
  | columns (names : List String)
  | count
deriving DecidableEq, Repr

/-- A query with places for its values. -/
structure Template where
  selected : Selected
  tests : List Test
  order : List SortKey
  limit : Option Nat
  offset : Option Nat
deriving DecidableEq, Repr

/-! ## Reading -/

def Column.ofName? : String → Option Column
  | "task_id" => some .id
  | "organization_id" => some .organization
  | "status" => some .status
  | "workflow_run_id" => some .workflowRun
  | "application" => some .application
  | _ => none

theorem Column.ofName?_name (column : Column) : Column.ofName? column.name = some column := by
  cases column <;> rfl

def SortColumn.ofName? (name : String) : Option SortColumn :=
  ((OrderKey.ofWord? name).map .moment).or ((Column.ofName? name).map .text)

/-- What stands between separators. -/
def readAll {α : Type} (separator : Token) (one : List Token → Option α) (ts : List Token) : Option (List α) :=
  (ts.splitOn separator).mapM one

def readName : List Token → Option String
  | [.text name] => if columns.contains name then some name else none
  | _ => none

def readPlace : List Token → Option Nat
  | [.place n] => some n
  | _ => none

def Test.read : List Token → Option Test
  | [.text name, .text "=", .place n] => (Column.ofName? name).map (.equals · n)
  | [.text name, .text "=", .text "ANY", .text "(", .place n, .text ")"] => (Column.ofName? name).map (.among · n)
  | [.text name, .text "IS", .text "NULL"] => (Column.ofName? name).map .absent
  | _ => none

def SortKey.read : List Token → Option SortKey
  | [.text name, .text "ASC"] => (SortColumn.ofName? name).map (⟨·, .ascending⟩)
  | [.text name, .text "DESC"] => (SortColumn.ofName? name).map (⟨·, .descending⟩)
  | _ => none

def Selected.read : List Token → Option Selected
  | [.text "COUNT", .text "(", .text "*", .text ")"] => some .count
  | ts => (readAll (.text ",") readName ts).map .columns

def readOrder : List Token → Option (List SortKey)
  | .text "BY" :: ts => readAll (.text ",") SortKey.read ts
  | _ => none

/-- The words that a part of a query begins with. -/
def Token.heads : Token → Bool
  | .text s => ["SELECT", "FROM", "WHERE", "ORDER", "LIMIT", "OFFSET"].contains s
  | .place _ => false

/-- The parts of a query: each reaches up to the head of the next one. -/
def sections (ts : List Token) : List (List Token) :=
  ts.splitBy fun _ t => !t.heads

/-- The first part behind its head, if it has that head, and the other parts. -/
def takeSection (head : String) : List (List Token) → Option (List Token) × List (List Token)
  | [] => (none, [])
  | part :: rest => if part.head? = some (.text head) then (some part.tail, rest) else (none, part :: rest)

def readSections : List (List Token) → Option Template
  | (.text "SELECT" :: selected) :: [.text "FROM", .text "tasks"] :: rest => do
    let (tests, rest) := takeSection "WHERE" rest
    let (order, rest) := takeSection "ORDER" rest
    let (limit, rest) := takeSection "LIMIT" rest
    let (offset, rest) := takeSection "OFFSET" rest
    if rest.isEmpty then
      return {
        selected := ← Selected.read selected
        tests := ← tests.elim (some []) (readAll (.text "AND") Test.read)
        order := ← order.elim (some []) readOrder
        limit := ← limit.mapM readPlace
        offset := ← offset.mapM readPlace }
    else none
  | _ => none

/-- What a text asks for. -/
def Template.read (s : String) : Option Template :=
  readSections (sections (tokens s))

/-! ## Values in their places -/

/-- A query of the table of tasks. -/
structure Query where
  selected : Selected
  conditions : List Condition
  order : List SortKey
  limit : Option Nat
  offset : Option Nat
deriving DecidableEq, Repr

/-- The value at a place. -/
def valueAt? (vs : List Value) : Nat → Option Value
  | 0 => none
  | n + 1 => vs[n]?

/-- How many rows the value at a place says; there are no negative rows, and no number beyond the greatest is sent. -/
def numberAt? (vs : List Value) (n : Nat) : Option Nat :=
  match valueAt? vs n with
  | some (.number k) => if 0 ≤ k ∧ k ≤ maxNumber then some k.toNat else none
  | _ => none

namespace Test

def place? : Test → Option Nat
  | .equals _ n | .among _ n => some n
  | .absent _ => none

def fill (vs : List Value) : Test → Option Condition
  | .equals column n =>
    match valueAt? vs n with
    | some (.text s) => some (.equals column s)
    | _ => none
  | .among column n =>
    match valueAt? vs n with
    | some (.texts l) => some (.among column l)
    | _ => none
  | .absent column => some (.absent column)

end Test

namespace Template

/-- The places of a template, from left to right. -/
def places (t : Template) : List Nat :=
  t.tests.filterMap Test.place? ++ t.limit.toList ++ t.offset.toList

/-- The query with the values in their places.  There is a place for every value, in their order. -/
def fill (t : Template) (vs : List Value) : Option Query :=
  if t.places = List.range' 1 vs.length then do
    return {
      selected := t.selected
      conditions := ← t.tests.mapM (Test.fill vs)
      order := t.order
      limit := ← t.limit.mapM (numberAt? vs)
      offset := ← t.offset.mapM (numberAt? vs) }
  else none

end Template

/-- What the text and the values of a statement ask for. -/
def Statement.query (s : Statement) : Option Query :=
  (Template.read s.text).bind (·.fill s.bindings)

/-! ## Parts of a query -/

theorem sections_cons {t : Token} {body rest : List Token} (hbody : ∀ u ∈ body, u.heads = false)
    (hrest : ∀ u ∈ rest.head?, u.heads = true) : sections (t :: body ++ rest) = (t :: body) :: sections rest := by
  have hchain : (t :: body).IsChain fun _ u => (!u.heads) = true := by
    refine List.Pairwise.isChain (List.pairwise_cons.mpr ⟨fun u hu => ?_, ?_⟩)
    · rw [hbody u hu]
      rfl
    · refine List.pairwise_of_forall_mem_list fun _ _ u hu => ?_
      rw [hbody u hu]
      rfl
  have hmeet : ∀ x ∈ (t :: body).getLast?, ∀ u ∈ rest.head?, (!u.heads) = false := by
    intro _ _ u hu
    rw [hrest u hu]
    rfl
  unfold sections
  rw [List.splitBy_append hmeet, List.splitBy_of_isChain (List.cons_ne_nil t body) hchain]
  rfl

/-! ## Places -/

theorem valueAt?_append (vs : List Value) (v : Value) (ws : List Value) :
    valueAt? (vs ++ v :: ws) (vs.length + 1) = some v := by
  rw [valueAt?, List.getElem?_append_right (Nat.le_refl _), Nat.sub_self]
  rfl

theorem numberAt?_append (vs ws : List Value) {k : Int} (hk : 0 ≤ k ∧ k ≤ maxNumber) :
    numberAt? (vs ++ .number k :: ws) (vs.length + 1) = some k.toNat := by
  rw [numberAt?, valueAt?_append]
  exact if_pos hk

theorem Template.fill_eq {t : Template} {vs : List Value} {conditions : List Condition} {limit offset : Option Nat}
    (hplaces : t.places = List.range' 1 vs.length) (htests : t.tests.mapM (Test.fill vs) = some conditions)
    (hlimit : t.limit.mapM (numberAt? vs) = some limit) (hoffset : t.offset.mapM (numberAt? vs) = some offset) :
    t.fill vs = some ⟨t.selected, conditions, t.order, limit, offset⟩ := by
  rw [Template.fill, if_pos hplaces, htests, hlimit, hoffset]
  rfl

/-! ## Conditions -/

namespace Condition

/-- The test that a condition is read as behind `n` values. -/
def test (n : Nat) : Condition → Test
  | .equals column _ => .equals column (n + 1)
  | .absent column => .absent column
  | .among column _ => .among column (n + 1)

def values (c : Condition) : List Value :=
  Sql.values c.parts

variable {n : Nat} {c : Condition} {cs : List Condition}

theorem read_tokens (n : Nat) (c : Condition) : Test.read (c.tokens n) = some (c.test n) := by
  cases c <;> simp only [tokens, Test.read, Column.ofName?_name, Option.map_some, test]

/-- No head and no `AND` stands within a condition. -/
theorem within_tokens : ∀ t ∈ c.tokens n, t.heads = false ∧ t ≠ .text "AND" := by
  have hname : ∀ column : Column, (Token.text column.name).heads = false ∧ Token.text column.name ≠ .text "AND" := by
    intro column
    cases column <;> decide
  have hplace : ∀ n, (Token.place n).heads = false ∧ Token.place n ≠ .text "AND" := fun _ => ⟨rfl, Token.noConfusion⟩
  cases c with
  | equals column s =>
    simp only [tokens, List.forall_mem_cons]
    exact ⟨hname column, by decide, hplace _, List.forall_mem_nil _⟩
  | absent column =>
    simp only [tokens, List.forall_mem_cons]
    exact ⟨hname column, by decide, by decide, List.forall_mem_nil _⟩
  | among column texts =>
    simp only [tokens, List.forall_mem_cons]
    exact ⟨hname column, by decide, by decide, by decide, hplace _, by decide, List.forall_mem_nil _⟩

/-- The tests that conditions are read as behind `n` values. -/
def tests : Nat → List Condition → List Test
  | _, [] => []
  | n, c :: cs => c.test n :: tests (n + c.values.length) cs

/-- The tokens of conditions behind another one and `n` values. -/
def laterTokens : Nat → List Condition → List Token
  | _, [] => []
  | n, c :: cs => .text "AND" :: c.tokens n ++ laterTokens (n + c.values.length) cs

theorem heads_laterTokens (n : Nat) (cs : List Condition) : ∀ t ∈ laterTokens n cs, t.heads = false := by
  induction cs generalizing n with
  | nil => exact List.forall_mem_nil _
  | cons c cs ih =>
    rw [laterTokens, List.forall_mem_append, List.forall_mem_cons]
    exact ⟨⟨by decide, fun t ht => (within_tokens t ht).1⟩, ih _⟩

theorem tokens_later (n : Nat) (cs : List Condition) (tail : List Clause) :
    Sql.tokens (render n (Clause.allParts true (cs.map .condition ++ tail))) =
      laterTokens n cs ++ Sql.tokens (render (n + (cs.flatMap values).length) (Clause.allParts true tail)) := by
  induction cs generalizing n with
  | nil => rfl
  | cons c cs ih =>
    have hlength : n + ((c :: cs).flatMap values).length = n + c.values.length + (cs.flatMap values).length := by
      rw [List.flatMap_cons, List.length_append]
      omega
    rw [List.map_cons, List.cons_append, tokens_allParts, laterTokens, hlength, List.append_assoc]
    exact congrArg (_ ++ ·) (ih _)

theorem values_allParts (cs : List Condition) (tail : List Clause) :
    Sql.values (Clause.allParts true (cs.map .condition ++ tail)) =
      cs.flatMap values ++ Sql.values (Clause.allParts true tail) := by
  induction cs with
  | nil => rfl
  | cons c cs ih =>
    rw [List.map_cons, List.cons_append, Clause.allParts, values_append, List.flatMap_cons, List.append_assoc]
    exact congrArg (_ ++ ·) ih

theorem readAll_tokens (n : Nat) (c : Condition) (cs : List Condition) :
    readAll (.text "AND") Test.read (c.tokens n ++ laterTokens (n + c.values.length) cs) = some (tests n (c :: cs)) := by
  have hand : ∀ n (c : Condition), .text "AND" ∉ c.tokens n := fun _ _ h => (within_tokens _ h).2 rfl
  unfold readAll
  induction cs generalizing n c with
  | nil =>
    rw [laterTokens, List.append_nil, List.splitOn_eq_singleton (hand n c), List.mapM_cons, read_tokens]
    rfl
  | cons d ds ih =>
    rw [laterTokens, List.cons_append, List.splitOn_append_cons_self_of_not_mem (hand n c), List.mapM_cons, read_tokens,
      ih]
    rfl

theorem filterMap_place_tests (n : Nat) (cs : List Condition) :
    (tests n cs).filterMap Test.place? = List.range' (n + 1) (cs.flatMap values).length := by
  induction cs generalizing n with
  | nil => rfl
  | cons c cs ih =>
    have hplace : [c.test n].filterMap Test.place? = List.range' (n + 1) c.values.length := by
      cases c <;> rfl
    rw [tests, ← List.singleton_append, List.filterMap_append, hplace, ih, Nat.add_right_comm, List.range'_append_1,
      List.flatMap_cons, List.length_append]

theorem fill_test (vs : List Value) (c : Condition) (ws : List Value) :
    (c.test vs.length).fill (vs ++ (c.values ++ ws)) = some c := by
  cases c with
  | equals column s =>
    have hvalue : valueAt? (vs ++ ((equals column s).values ++ ws)) (vs.length + 1) = some (.text s) :=
      valueAt?_append vs (.text s) ws
    rw [test, Test.fill, hvalue]
  | absent column => rfl
  | among column texts =>
    have hvalue : valueAt? (vs ++ ((among column texts).values ++ ws)) (vs.length + 1) = some (.texts texts) :=
      valueAt?_append vs (.texts texts) ws
    rw [test, Test.fill, hvalue]

/-- The values of conditions meet their places. -/
theorem mapM_fill_tests (vs : List Value) (cs : List Condition) (ws : List Value) :
    (tests vs.length cs).mapM (Test.fill (vs ++ (cs.flatMap values ++ ws))) = some cs := by
  induction cs generalizing vs with
  | nil => rfl
  | cons c cs ih =>
    have hrest := ih (vs ++ c.values)
    rw [List.length_append, List.append_assoc] at hrest
    rw [tests, List.mapM_cons, List.flatMap_cons, List.append_assoc, fill_test, hrest]
    rfl

end Condition

/-! ## Statements -/

def Selection.selected : Selection → Selected
  | .rows => .columns columns
  | .count => .count

/-- The tokens between `SELECT` and `FROM`. -/
def Selection.tokens : Selection → List Token
  | .rows => (columns.map .text).intersperse (.text ",")
  | .count => [.text "COUNT", .text "(", .text "*", .text ")"]

theorem tokens_selection (sel : Selection) :
    tokens sel.text = .text "SELECT" :: sel.tokens ++ [.text "FROM", .text "tasks"] := by
  cases sel with
  | rows =>
    have hnames : ∀ name ∈ columns, tokens name = [.text name] := by decide
    have hselect : tokens "SELECT " = [.text "SELECT"] := by decide
    have hfrom : tokens " FROM tasks" = [.text "FROM", .text "tasks"] := by decide
    rw [Selection.text, tokens_append (.inr (by decide)), tokens_append (.inl (by decide)), tokens_intercalate hnames,
      hselect, hfrom]
    rfl
  | count => decide

theorem heads_selection (sel : Selection) : ∀ t ∈ sel.tokens, t.heads = false := by
  cases sel <;> decide

theorem read_selection (sel : Selection) : Selected.read sel.tokens = some sel.selected := by
  cases sel <;> decide

variable (sel : Selection) (c : Condition) (cs : List Condition)

/-- The parts of a statement with conditions: what is selected, the table, the conditions, and those of its tail. -/
theorem sections_text (tail : List Clause) {ts : List Token}
    (hts : tokens (render ((c :: cs).flatMap Condition.values).length (Clause.allParts true tail)) = ts)
    (hheads : ∀ t ∈ ts.head?, t.heads = true) :
    sections (tokens (Statement.mk sel ((c :: cs).map .condition ++ tail)).text) =
      (.text "SELECT" :: sel.tokens) :: [.text "FROM", .text "tasks"] ::
        (.text "WHERE" :: (c.tokens 0 ++ Condition.laterTokens c.values.length cs)) :: sections ts := by
  have hwithin : ∀ t ∈ c.tokens 0 ++ Condition.laterTokens c.values.length cs, t.heads = false :=
    List.forall_mem_append.mpr ⟨fun t ht => (Condition.within_tokens t ht).1, Condition.heads_laterTokens _ _⟩
  have hclauses : tokens (render 0 (Clause.allParts false ((c :: cs).map .condition ++ tail))) =
      .text "WHERE" :: (c.tokens 0 ++ Condition.laterTokens c.values.length cs) ++ ts := by
    have hlater := Condition.tokens_later c.values.length cs tail
    rw [← List.length_append, ← List.flatMap_cons, hts] at hlater
    rw [List.map_cons, List.cons_append, tokens_allParts, List.cons_append, List.append_assoc, ← hlater, Nat.zero_add]
    rfl
  have htext : tokens (Statement.mk sel ((c :: cs).map .condition ++ tail)).text =
      .text "SELECT" :: sel.tokens ++ (.text "FROM" :: [.text "tasks"] ++
        (.text "WHERE" :: (c.tokens 0 ++ Condition.laterTokens c.values.length cs) ++ ts)) := by
    rw [Statement.text, Statement.parts, tokens_words (.inr (opens_allParts _ _ _)), tokens_selection, hclauses,
      List.append_assoc]
  rw [htext, sections_cons (heads_selection sel) (by simp [Token.heads]),
    sections_cons (by decide) (by simp [Token.heads]), sections_cons hwithin hheads]

theorem bindings_text (tail : List Clause) : (Statement.mk sel ((c :: cs).map .condition ++ tail)).bindings =
    (c :: cs).flatMap Condition.values ++ values (Clause.allParts true tail) := by
  rw [List.flatMap_cons, List.append_assoc, ← Condition.values_allParts, Statement.bindings, Statement.parts, values,
    List.map_cons, List.cons_append, Clause.allParts, values_append]
  rfl

theorem read_conditions : Template.read (Statement.mk sel ((c :: cs).map .condition)).text =
    some ⟨sel.selected, Condition.tests 0 (c :: cs), [], none, none⟩ := by
  have htail : tokens (render ((c :: cs).flatMap Condition.values).length (Clause.allParts true [])) = [] := rfl
  have hsections := sections_text sel c cs [] htail (by simp)
  have htests := Condition.readAll_tokens 0 c cs
  rw [List.append_nil] at hsections
  rw [Nat.zero_add] at htests
  rw [Template.read, hsections]
  simp [readSections, takeSection, read_selection, htests, sections]

variable (key : OrderKey) (direction : Direction) (limit offset : Int)

/-- The tokens behind `ORDER`. -/
def orderTokens : List Token :=
  [.text "BY", .text key.word, .text (directionWord direction), .text ",", .text "task_id",
    .text (directionWord direction)]

theorem readOrder_tokens :
    readOrder (orderTokens key direction) = some [⟨.moment key, direction⟩, ⟨.text .id, direction⟩] := by
  cases key <;> cases direction <;> decide

theorem tokens_page (n : Nat) :
    tokens (render n (Clause.allParts true [.order key direction, .page limit offset])) =
      .text "ORDER" :: orderTokens key direction ++
        [.text "LIMIT", .place (n + 1), .text "OFFSET", .place (n + 2)] := by
  rw [tokens_allParts, tokens_allParts]
  rfl

theorem sections_page (n : Nat) :
    sections (.text "ORDER" :: orderTokens key direction ++
      [.text "LIMIT", .place (n + 1), .text "OFFSET", .place (n + 2)]) =
        [.text "ORDER" :: orderTokens key direction, [.text "LIMIT", .place (n + 1)],
          [.text "OFFSET", .place (n + 2)]] := by
  cases key <;> cases direction <;> rfl

theorem read_page : Template.read
    (Statement.mk sel ((c :: cs).map .condition ++ [.order key direction, .page limit offset])).text =
      some ⟨sel.selected, Condition.tests 0 (c :: cs), [⟨.moment key, direction⟩, ⟨.text .id, direction⟩],
        some (((c :: cs).flatMap Condition.values).length + 1),
        some (((c :: cs).flatMap Condition.values).length + 2)⟩ := by
  have hsections := sections_text sel c cs [.order key direction, .page limit offset]
    (tokens_page key direction limit offset _) (by simp [Token.heads])
  have htests := Condition.readAll_tokens 0 c cs
  rw [Nat.zero_add] at htests
  rw [Template.read, hsections, sections_page]
  simp [readSections, takeSection, read_selection, htests, readOrder_tokens, readPlace]

/-- A statement with conditions alone asks for what meets them. -/
theorem query_conditions :
    (Statement.mk sel ((c :: cs).map .condition)).query = some ⟨sel.selected, c :: cs, [], none, none⟩ := by
  have hbindings : (Statement.mk sel ((c :: cs).map .condition)).bindings = (c :: cs).flatMap Condition.values := by
    have h := bindings_text sel c cs []
    rw [List.append_nil] at h
    exact h.trans (List.append_nil _)
  have hfill := Condition.mapM_fill_tests [] (c :: cs) []
  rw [List.nil_append, List.append_nil] at hfill
  rw [Statement.query, read_conditions, hbindings, Option.bind_some]
  refine Template.fill_eq ?_ hfill rfl rfl
  rw [Template.places, Condition.filterMap_place_tests]
  exact (List.append_nil _).trans (List.append_nil _)

variable {limit offset}

/-- A statement with conditions, an order and a page asks for that page of what meets them. -/
theorem query_page (hlimit : 0 ≤ limit ∧ limit ≤ maxNumber) (hoffset : 0 ≤ offset ∧ offset ≤ maxNumber) :
    (Statement.mk sel ((c :: cs).map .condition ++ [.order key direction, .page limit offset])).query =
      some ⟨sel.selected, c :: cs, [⟨.moment key, direction⟩, ⟨.text .id, direction⟩], some limit.toNat,
        some offset.toNat⟩ := by
  have hbindings := bindings_text sel c cs [.order key direction, .page limit offset]
  have hplaces := Condition.filterMap_place_tests 0 (c :: cs)
  have hfill := Condition.mapM_fill_tests [] (c :: cs) [.number limit, .number offset]
  rw [List.nil_append] at hfill
  rw [Statement.query, read_page, hbindings, Option.bind_some]
  generalize (c :: cs).flatMap Condition.values = vs at hplaces hfill
  refine Template.fill_eq ?_ hfill ?_ ?_
  · have hlength : (vs ++ values (Clause.allParts true [.order key direction, .page limit offset])).length =
        vs.length + 1 + 1 := List.length_append
    rw [Template.places, hplaces, hlength, List.range'_1_concat, List.range'_1_concat, Nat.add_comm 1, Nat.add_comm 1]
    rfl
  · exact congrArg (·.map some) (numberAt?_append vs [.number offset] hlimit)
  · have h := numberAt?_append (vs ++ [.number limit]) [] hoffset
    rw [List.append_assoc, List.length_append] at h
    exact congrArg (·.map some) h

end Sql
end TaskLifecycle
