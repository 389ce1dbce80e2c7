import Mathlib.Logic.Relation
import TaskLifecycle.Toml.Document

/-!
# TaskLifecycle.Proofs.Toml.Refusal — what cannot be read makes the whole document unreadable

Reading a document is a tree of calls: lines need the lines behind them and the values of their keys, a value needs what
lies within it.

* `Toml.Call`: the calls; `Call.Needs`: a call that another one has to be answered for.
* `Call.refuses_of_needs`: a call is refused where one that it needs is.
* `Toml.read_of_reaches`: so nothing is read from a document where any call is refused.
-/

namespace TaskLifecycle
namespace Toml

/-- A call of the reader: for lines, for a value, for the items of an array or for the entries of an inline table. -/
inductive Call where
  | lines (fuel : Nat) (node : Node) (path : List String) (cs : List Char)
  | value (fuel depth : Nat) (cs : List Char)
  | items (fuel depth : Nat) (done : List Node) (cs : List Char)
  | entries (fuel depth : Nat) (node : Node) (cs : List Char)

namespace Call

/-- Nothing is read. -/
def Refuses : Call → Prop
  | lines fuel node path cs => Toml.lines fuel node path cs = none
  | value fuel depth cs => Toml.value fuel depth cs = none
  | items fuel depth done cs => arrayItems fuel depth done cs = none
  | entries fuel depth node cs => inlineEntries fuel depth node cs = none

/-- A call, and one that it makes. -/
inductive Needs : Call → Call → Prop where
  | nextLine {fuel : Nat} {node node' : Node} {path path' : List String} {cs rest : List Char} (nonempty : cs ≠ [])
    (read : line node path cs = some (node', path', rest)) :
    Needs (lines (fuel + 1) node path cs) (lines fuel node' path' rest)
  | lineValue {fuel : Nat} {node : Node} {path key : List String} {cs behind rest : List Char}
    (start : (skipSpace cs).head? ≠ some '[') (more : lineEnd (skipSpace cs) = none)
    (named : dottedKey (skipSpace cs) = some (key, behind)) (marked : mark '=' behind = some rest) :
    Needs (lines (fuel + 1) node path cs) (value (rest.length + 1) 0 (skipSpace rest))
  | array {fuel depth : Nat} {rest : List Char} :
    Needs (value (fuel + 1) depth ('[' :: rest)) (items fuel (depth + 1) [] rest)
  | table {fuel depth : Nat} {rest : List Char} (more : (skipSpace rest).head? ≠ some '}') :
    Needs (value (fuel + 1) depth ('{' :: rest)) (entries fuel (depth + 1) Node.empty (skipSpace rest))
  | item {fuel depth : Nat} {done : List Node} {cs : List Char} (more : (skipLines cs.length cs).head? ≠ some ']') :
    Needs (items (fuel + 1) depth done cs) (value fuel depth (skipLines cs.length cs))
  | nextItem {fuel depth : Nat} {done : List Node} {v : Node} {cs behind rest : List Char}
    (more : (skipLines cs.length cs).head? ≠ some ']')
    (read : Toml.value fuel depth (skipLines cs.length cs) = some (v, behind))
    (comma : skipLines behind.length behind = ',' :: rest) :
    Needs (items (fuel + 1) depth done cs) (items fuel depth (v :: done) rest)
  | entry {fuel depth : Nat} {node : Node} {key : List String} {cs behind rest : List Char}
    (named : dottedKey cs = some (key, behind)) (marked : mark '=' behind = some rest) :
    Needs (entries (fuel + 1) depth node cs) (value fuel depth (skipSpace rest))
  | nextEntry {fuel depth : Nat} {node node' v : Node} {key : List String} {cs behind rest behindValue more : List Char}
    (named : dottedKey cs = some (key, behind)) (marked : mark '=' behind = some rest)
    (read : Toml.value fuel depth (skipSpace rest) = some (v, behindValue)) (define : node.define [] key v = some node')
    (comma : skipSpace behindValue = ',' :: more) :
    Needs (entries (fuel + 1) depth node cs) (entries fuel depth node' more)

/-- A call is refused where one that it needs is. -/
theorem refuses_of_needs {a b : Call} (h : Needs a b) (hb : b.Refuses) : a.Refuses := by
  cases h with
  | @nextLine fuel node node' path path' cs rest hsome hread =>
    obtain ⟨c, cs, rfl⟩ := List.exists_cons_of_ne_nil hsome
    simp only [Refuses, Toml.lines, hread, Option.bind_some]
    exact hb
  | @lineValue fuel node path key cs behind rest hstart hmore hkey hmark =>
    have hline : line node path cs = none := by
      unfold line
      split
      · exact absurd (congrArg List.head? ‹_›) hstart
      · exact absurd (congrArg List.head? ‹_›) hstart
      · simp only [hmore, hkey, hmark, bind, Option.bind_some]
        rw [hb]
        rfl
    cases cs with
    | nil => exact absurd hmore (by decide)
    | cons c cs => simp only [Refuses, Toml.lines, hline, Option.bind_none]
  | @array fuel depth rest =>
    simp only [Refuses, Toml.value]
    split
    · exact hb
    · rfl
  | @table fuel depth rest hmore =>
    simp only [Refuses, Toml.value]
    split
    · rfl
    · split
      · exact absurd (congrArg List.head? ‹_›) hmore
      · exact hb
  | @item fuel depth done cs hmore =>
    simp only [Refuses, arrayItems]
    split
    · exact absurd (congrArg List.head? ‹_›) hmore
    · rw [hb, Option.bind_none]
  | @nextItem fuel depth done v cs behind rest hmore hread hcomma =>
    simp only [Refuses, arrayItems]
    split
    · exact absurd (congrArg List.head? ‹_›) hmore
    · simp only [hread, Option.bind_some, hcomma]
      exact hb
  | @entry fuel depth node key cs behind rest hkey hmark =>
    simp only [Refuses, inlineEntries, hkey, hmark, Option.bind_some]
    rw [hb, Option.bind_none]
  | @nextEntry fuel depth node node' v key cs behind rest behindValue more hkey hmark hread hdefine hcomma =>
    simp only [Refuses, inlineEntries, hkey, hmark, hread, hdefine, hcomma, Option.bind_some]
    exact hb

/-- A call, and one that is made while it is answered. -/
def Reaches : Call → Call → Prop :=
  Relation.ReflTransGen Needs

theorem refuses_of_reaches {a b : Call} (h : a.Reaches b) (hb : b.Refuses) : a.Refuses := by
  induction h using Relation.ReflTransGen.head_induction_on with
  | refl => exact hb
  | head hneeds _ ih => exact refuses_of_needs hneeds ih

/-- The call for a document, without a mark for the order of its bytes. -/
def start (s : String) : Call :=
  let cs := if s.toList.head? = some '\uFEFF' then s.toList.drop 1 else s.toList
  lines (cs.length + 1) Node.empty [] cs

end Call

/-- Nothing is read from a document where any call is refused. -/
theorem read_of_reaches {s : String} {call : Call} (h : (Call.start s).Reaches call) (hcall : call.Refuses) :
    read s = none := by
  have hstart : (Call.start s).Refuses := Call.refuses_of_reaches h hcall
  simp only [Call.start, Call.Refuses] at hstart
  simp only [read, hstart, Option.bind_none]

end Toml
end TaskLifecycle
