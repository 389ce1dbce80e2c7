import TaskLifecycle.Proofs.Pages
import TaskLifecycle.Proofs.Sql.Template

/-!
# TaskLifecycle.Proofs.Sql.Meaning — what a query answers

A test of a column that holds nothing is neither true nor false.  Rows come in no order but the one that is asked for.

* `Truth`, `Condition.truth`: whether a row meets a condition; `Query.keeps`: the rows for which all of them are true.
* `SortKey.Less`, `MayPrecede`: the order of rows; texts go by their bytes, and a column that holds nothing comes last.
* `Query.Answers`: what may be answered to a query; `Statement.Yields`: what may be answered to a statement.
* `Query.answers_count_iff`, `Query.answers_rows_iff`: a count has one answer, and so have rows that are sorted by a
  moment and then the identifier.
-/

namespace TaskLifecycle
namespace Sql

/-! ## Truth -/

inductive Truth where
  | yes
  | no
  | unknown
deriving DecidableEq, Repr

namespace Truth

def of (b : Bool) : Truth :=
  if b then .yes else .no

def and : Truth → Truth → Truth
  | .no, _ | _, .no => .no
  | .yes, .yes => .yes
  | _, _ => .unknown

def or : Truth → Truth → Truth
  | .yes, _ | _, .yes => .yes
  | .no, .no => .no
  | _, _ => .unknown

variable {a b : Truth}

theorem of_eq_yes_iff {b : Bool} : of b = .yes ↔ b = true := by
  cases b <;> decide

theorem and_eq_yes_iff : a.and b = .yes ↔ a = .yes ∧ b = .yes := by
  cases a <;> cases b <;> decide

theorem or_eq_yes_iff : a.or b = .yes ↔ a = .yes ∨ b = .yes := by
  cases a <;> cases b <;> decide

end Truth

/-! ## Conditions -/

/-- The text that a column holds in a row, if it holds one. -/
def Column.text? (t : Task) : Column → Option String
  | .id => some t.id
  | .organization => t.organization
  | .status => some t.status.word
  | .workflowRun => t.workflowRun
  | .application => t.application

/-- Whether a column holds a text; it is unknown of one that holds nothing. -/
def same : Option String → String → Truth
  | some a, b => .of (a == b)
  | none, _ => .unknown

theorem same_eq_yes_iff {o : Option String} {s : String} : same o s = .yes ↔ o = some s := by
  cases o with
  | none => exact ⟨nofun, nofun⟩
  | some a => rw [same, Truth.of_eq_yes_iff, beq_iff_eq, Option.some.injEq]

namespace Condition

/-- Whether a row meets a condition.  One of several texts is there if the column holds the first or one of the others. -/
def truth (t : Task) : Condition → Truth
  | .equals column s => same (column.text? t) s
  | .absent column => .of (column.text? t).isNone
  | .among column texts => texts.foldr (fun s rest => (same (column.text? t) s).or rest) .no

variable {t : Task}

theorem truth_among_eq_yes_iff {column : Column} {texts : List String} :
    (among column texts).truth t = .yes ↔ ∃ s ∈ texts, column.text? t = some s := by
  rw [truth]
  induction texts with
  | nil => simp
  | cons s texts ih => rw [List.foldr_cons, Truth.or_eq_yes_iff, same_eq_yes_iff, ih, List.exists_mem_cons_iff]

end Condition

/-! ## Orders -/

/-- Whether a row has the smaller value in a column.  A column that holds nothing has the greatest. -/
def SortColumn.Less (a b : Task) : SortColumn → Prop
  | .moment key => key.moment a < key.moment b
  | .text column =>
    match column.text? a, column.text? b with
    | some s, some s' => Text.bytes s < Text.bytes s'
    | some _, none => True
    | none, _ => False

def SortKey.Less (k : SortKey) (a b : Task) : Prop :=
  match k.direction with
  | .ascending => k.column.Less a b
  | .descending => k.column.Less b a

/-- Whether a row may come before another one: by the first key, or by the others where that does not tell. -/
def MayPrecede (a b : Task) : List SortKey → Prop
  | [] => True
  | k :: rest => k.Less a b ∨ ¬ k.Less b a ∧ MayPrecede a b rest

/-! ## Answers -/

/-- An answer: columns of rows, or a number. -/
inductive Result where
  | rows (columns : List String) (ts : List Task)
  | count (n : Nat)

namespace Query

/-- What the conditions are of a row, all together. -/
def truth (q : Query) (t : Task) : Truth :=
  q.conditions.foldr (fun c rest => (c.truth t).and rest) .yes

/-- The rows that are kept are those for which the conditions are true. -/
def keeps (q : Query) (t : Task) : Bool :=
  q.truth t == .yes

/-- The rows from the offset on, as many as the limit says. -/
def slice (q : Query) (ts : List Task) : List Task :=
  let rest := ts.drop (q.offset.getD 0)
  q.limit.elim rest rest.take

/-- What may be answered to a query.  Rows that the order does not tell apart come in any order.  A number is not sorted
or sliced. -/
inductive Answers (q : Query) (rows : List Task) : Result → Prop
  | rows (columns : List String) (ts : List Task) (selected : q.selected = .columns columns)
      (kept : ts.Perm (rows.filter q.keeps)) (sorted : ts.Pairwise fun a b => MayPrecede a b q.order) :
      Answers q rows (.rows columns (q.slice ts))
  | count (selected : q.selected = .count) (plain : q.order = [] ∧ q.limit = none ∧ q.offset = none) :
      Answers q rows (.count (rows.countP q.keeps))

variable {q : Query} {rows : List Task} {t : Task} {r : Result}

theorem truth_eq_yes_iff : q.truth t = .yes ↔ ∀ c ∈ q.conditions, c.truth t = .yes := by
  rw [truth]
  induction q.conditions with
  | nil => simp
  | cons c cs ih => rw [List.foldr_cons, Truth.and_eq_yes_iff, ih, List.forall_mem_cons]

end Query

/-- What may be answered to a statement on a table with these rows: to the query that its text and its values make. -/
def Statement.Yields (s : Statement) (rows : List Task) (r : Result) : Prop :=
  ∃ q, s.query = some q ∧ q.Answers rows r

/-! ## Counts and pages -/

/-- Sorting by a moment and then by the identifier is the order of a listing. -/
theorem mayPrecede_iff {key : OrderKey} {direction : Direction} {a b : Task} :
    MayPrecede a b [⟨.moment key, direction⟩, ⟨.text .id, direction⟩] ↔ direction.comes key a b = true := by
  have hplace : ∀ a b : Task, (key.moment a < key.moment b ∨ ¬ key.moment b < key.moment a ∧
      (Text.bytes a.id < Text.bytes b.id ∨ ¬ Text.bytes b.id < Text.bytes a.id ∧ True)) ↔
        key.place a ≤ key.place b := by
    intro a b
    have hid : (a.id < b.id ∨ ¬ b.id < a.id) ↔ a.id ≤ b.id := by
      rw [not_lt]
      exact or_iff_right_of_imp le_of_lt
    rw [and_true, Text.bytes_lt_iff, Text.bytes_lt_iff, hid, OrderKey.place, OrderKey.place, Prod.Lex.le_iff]
    simp only [Moment.lt_def, ofLex_toLex]
    rcases lt_trichotomy (key.moment a).rank (key.moment b).rank with h | h | h
    · exact iff_of_true (.inl h) (.inl h)
    · simp only [h, lt_irrefl, not_false_eq_true, true_and]
    · simp only [h, not_true_eq_false, false_and, h.ne']
  rw [Direction.comes_iff]
  cases direction with
  | ascending => exact hplace a b
  | descending => exact hplace b a

namespace Query

variable {q : Query} {rows : List Task} {r : Result}

/-- A count has one answer. -/
theorem answers_count_iff (hselected : q.selected = .count) (hplain : q.order = [] ∧ q.limit = none ∧ q.offset = none) :
    q.Answers rows r ↔ r = .count (rows.countP q.keeps) := by
  constructor
  · intro h
    cases h with
    | rows columns ts selected => rw [hselected] at selected; cases selected
    | count => rfl
  · rintro rfl
    exact .count hselected hplain

/-- Rows in the order of a listing have one answer. -/
theorem answers_rows_iff {l : Listing} {columns : List String} (hids : (rows.map Task.id).Nodup)
    (hselected : q.selected = .columns columns) (hkeeps : q.keeps = l.filter.keeps)
    (horder : q.order = [⟨.moment l.key, l.direction⟩, ⟨.text .id, l.direction⟩]) :
    q.Answers rows r ↔ r = .rows columns (q.slice (l.arranged rows)) := by
  have hsorted : ∀ ts : List Task, (ts.Pairwise fun a b => MayPrecede a b q.order) ↔
      ts.Pairwise fun a b => l.direction.comes l.key a b = true := by
    intro ts
    rw [horder]
    exact List.Pairwise.iff fun _ _ => mayPrecede_iff
  constructor
  · intro h
    cases h with
    | rows names ts selected kept sorted =>
      rw [hselected] at selected
      cases selected
      rw [hkeeps] at kept
      rw [Listing.eq_arranged hids kept ((hsorted ts).mp sorted)]
    | count selected => rw [hselected] at selected; cases selected
  · rintro rfl
    refine .rows columns _ hselected ?_ ((hsorted _).mpr (l.pairwise_arranged rows))
    rw [hkeeps]
    exact l.arranged_perm rows

end Query

end Sql
end TaskLifecycle
