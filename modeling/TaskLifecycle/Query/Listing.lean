import TaskLifecycle.Input
import TaskLifecycle.Query.Filter

/-!
# TaskLifecycle.Query.Listing — pages of tasks in an order

* `OrderKey`, `Direction`: an order of tasks, `Direction.comes`: ties go by the identifier;
* `Paging`: how many tasks a page has;
* `Listing`: a page to be listed; `Listing.check`: whether there is such a page; `Listing.answer`: its tasks.
-/

namespace TaskLifecycle

/-! ## Orders -/

/-- What tasks are ordered by. -/
inductive OrderKey where
  | created
  | modified
deriving DecidableEq, Repr

namespace OrderKey

def moment : OrderKey → Task → Moment
  | .created, t => t.created
  | .modified, t => t.modified

/-- The name of the column and the word for the order. -/
def word : OrderKey → String
  | .created => "created_at"
  | .modified => "modified_at"

def ofWord? : String → Option OrderKey
  | "created_at" => some .created
  | "modified_at" => some .modified
  | _ => none

/-- Whether a task stands before another, or at its place, in ascending order. -/
def precedes (key : OrderKey) (a b : Task) : Bool :=
  decide ((key.moment a).rank < (key.moment b).rank) ||
    (decide ((key.moment a).rank = (key.moment b).rank) && decide (a.id ≤ b.id))

end OrderKey

inductive Direction where
  | ascending
  | descending
deriving DecidableEq, Repr

namespace Direction

def word : Direction → String
  | .ascending => "asc"
  | .descending => "desc"

def ofWord? : String → Option Direction
  | "asc" => some .ascending
  | "desc" => some .descending
  | _ => none

/-- Whether a task comes before another, or at its place. -/
def comes (direction : Direction) (key : OrderKey) (a b : Task) : Bool :=
  match direction with
  | .ascending => key.precedes a b
  | .descending => key.precedes b a

end Direction

/-! ## Pages -/

/-- The size of a page if none is asked for, and the greatest that may be. -/
structure Paging where
  defaultSize : UInt32
  maxSize : UInt32
deriving DecidableEq

/-- Ten tasks a page, a hundred at most. -/
def Paging.default : Paging :=
  ⟨10, 100⟩

/-- A page of the tasks that meet a filter; the first page is 1. -/
structure Listing where
  filter : Filter
  page : UInt32
  size : UInt32
  key : OrderKey
  direction : Direction
deriving DecidableEq

namespace Listing

/-- The first page, the tasks created last in front. -/
def first (filter : Filter) (paging : Paging) : Listing :=
  ⟨filter, 1, paging.defaultSize, .created, .descending⟩

/-- Whether there is such a page. -/
def check (l : Listing) (maxSize : UInt32) : Except Input.Fault Unit :=
  if l.page < 1 then .error (.page l.page)
  else if l.size < 1 ∨ maxSize < l.size then .error (.pageSize maxSize l.size)
  else .ok ()

/-- How many tasks come before the page. -/
def offset (l : Listing) : Nat :=
  (l.page.toNat - 1) * l.size.toNat

/-- The tasks of every page, in order. -/
def arranged (l : Listing) (rows : List Task) : List Task :=
  (rows.filter l.filter.keeps).mergeSort (l.direction.comes l.key)

/-- The tasks of the page. -/
def answer (l : Listing) (rows : List Task) : List Task :=
  ((l.arranged rows).drop l.offset).take l.size.toNat

end Listing
end TaskLifecycle
