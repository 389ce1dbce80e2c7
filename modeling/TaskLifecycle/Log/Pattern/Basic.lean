/-!
# TaskLifecycle.Log.Pattern.Basic — patterns of values

What a filter may say of the value of a field: characters, sets of them and places, repeated, grouped, one after another or
one instead of another.

Tables of characters beyond ASCII are not at hand.  So where a pattern speaks of all characters it can neither take capitals
for small letters nor name a kind of characters, and where it speaks of ASCII it can hold no part of a character beyond.

* `Pattern.depth`: how deep its parts lie in each other;
* `Pattern.modeAfter?`: what its switches have set at its end, if every part can be used as they stand there;
* `Pattern.isUsable`: a pattern that values can be held against.
-/

namespace TaskLifecycle
namespace Log

/-! ## Parts -/

/-- A character of a pattern; `byte` if it is written as the two digits of a byte. -/
structure Literal where
  char : Char
  byte : Bool
deriving DecidableEq, Repr

/-- What one mark of a pattern stands for. -/
inductive Symbol where
  | literal (l : Literal)
  /-- Digits, blanks or characters of words, or all but these. -/
  | kind (negated : Bool)
  /-- A place between characters, which is found by what stands around it if it is the end of a word. -/
  | place (ofWord : Bool)
  | any
deriving DecidableEq, Repr

/-- How two sets make a third one. -/
inductive Combination where
  | both
  | onlyFirst
  | oneOfTwo
deriving DecidableEq, Repr

/-- What stands in the brackets of a set. -/
inductive Members where
  | nothing
  | literal (l : Literal)
  | range (first last : Literal)
  | kind (negated : Bool)
  /-- A set of ASCII with a name, or all but it. -/
  | named (negated : Bool)
  | set (negated : Bool) (inner : Members)
  | union (items : List Members)
  | combined (how : Combination) (left right : Members)

/-- The letters of the switches that a group sets and of those that it clears. -/
structure Switches where
  on : List Char
  off : List Char
deriving DecidableEq, Repr

/-- The state of a switch behind the letters that set and clear some. -/
def Switches.state (s : Switches) (letter : Char) (before : Bool) : Bool :=
  s.on.contains letter || (before && !s.off.contains letter)

inductive Pattern where
  | empty
  | symbol (s : Symbol)
  | set (negated : Bool) (members : Members)
  | switch (s : Switches)
  | repeated (p : Pattern)
  | group (name : Option (List Char)) (s : Switches) (p : Pattern)
  | sequence (ps : List Pattern)
  | choice (ps : List Pattern)

/-! ## Depth -/

mutual

/-- How deep members lie in each other. -/
def Members.depth : Members → Nat
  | .set _ inner => inner.depth + 1
  | .union items => Members.greatestDepth items + 1
  | .combined _ left right => max left.depth right.depth + 1
  | _ => 0

def Members.greatestDepth : List Members → Nat
  | [] => 0
  | m :: rest => max m.depth (Members.greatestDepth rest)

end

namespace Pattern

mutual

/-- How deep the parts of a pattern lie in each other. -/
def depth : Pattern → Nat
  | .empty | .symbol _ | .switch _ => 0
  | .set _ members => members.depth + 1
  | .repeated p | .group _ _ p => p.depth + 1
  | .sequence ps | .choice ps => greatestDepth ps + 1

def greatestDepth : List Pattern → Nat
  | [] => 0
  | p :: rest => max p.depth (greatestDepth rest)

end

/-- Greatest depth of a pattern that is used. -/
def maxDepth : Nat := 250

/-! ## Names of groups -/

mutual

/-- The names that a pattern gives to its groups. -/
def names : Pattern → List (List Char)
  | .empty | .symbol _ | .set _ _ | .switch _ => []
  | .repeated p => p.names
  | .group name _ p => name.toList ++ p.names
  | .sequence ps | .choice ps => allNames ps

def allNames : List Pattern → List (List Char)
  | [] => []
  | p :: rest => p.names ++ allNames rest

end

end Pattern

/-! ## What can be used -/

/-- What a part of a pattern speaks of. -/
structure Mode where
  /-- Capitals are taken for small letters. -/
  caseless : Bool
  /-- All characters are meant, else those of ASCII. -/
  wide : Bool
deriving DecidableEq, Repr

namespace Mode

/-- The mode behind some switches. -/
def after (m : Mode) (s : Switches) : Mode :=
  ⟨s.state 'i' m.caseless, s.state 'u' m.wide⟩

/-- Capitals and small letters of all scripts, which no table tells. -/
def folds (m : Mode) : Bool :=
  m.caseless && m.wide

end Mode

def Literal.isAscii (l : Literal) : Bool :=
  l.char.toNat < 128

/-- Whether a mark can be used. -/
def Symbol.fits (m : Mode) : Symbol → Bool
  | .literal l => if m.wide then !m.caseless else l.isAscii || !l.byte
  | .kind negated => !m.wide && !negated
  | .place ofWord => !m.wide || !ofWord
  | .any => m.wide

/-- What is known of a set of characters: whether it may hold any, and whether it holds the bytes beyond ASCII. -/
structure Extent where
  inhabited : Bool
  high : Bool
deriving DecidableEq, Repr

def Combination.apply : Combination → Bool → Bool → Bool
  | .both => (· && ·)
  | .onlyFirst => fun a b => a && !b
  | .oneOfTwo => Bool.xor

/-- The extent of a set in brackets, if it can be used. -/
def Extent.bracketed? (m : Mode) (negated : Bool) (e : Extent) : Option Extent :=
  if m.folds ∧ e.inhabited then none
  else
    let e := if negated then ⟨true, !e.high⟩ else e
    if !m.wide ∧ e.high then none else some e

mutual

/-- The extent of members, if they can be used. -/
def Members.extent? (m : Mode) : Members → Option Extent
  | .nothing => some ⟨false, false⟩
  | .literal l => if m.wide ∨ l.isAscii then some ⟨true, false⟩ else none
  | .range first last => if m.wide ∨ (first.isAscii ∧ last.isAscii) then some ⟨true, false⟩ else none
  | .kind negated => if m.wide ∨ negated then none else some ⟨true, false⟩
  | .named negated => some ⟨true, !m.wide && negated⟩
  | .set negated inner => (inner.extent? m).bind (Extent.bracketed? m negated)
  | .union items => Members.unionExtent? m items
  | .combined how left right =>
    (left.extent? m).bind fun a => (right.extent? m).bind fun b =>
      if m.folds ∧ (a.inhabited ∨ b.inhabited) then none else some ⟨a.inhabited || b.inhabited, how.apply a.high b.high⟩

def Members.unionExtent? (m : Mode) : List Members → Option Extent
  | [] => some ⟨false, false⟩
  | item :: rest =>
    (item.extent? m).bind fun a => (Members.unionExtent? m rest).map fun b => ⟨a.inhabited || b.inhabited, a.high || b.high⟩

end

namespace Pattern

mutual

/-- The mode at the end of a pattern that begins in the mode `m`; none if some part cannot be used. -/
def modeAfter? (m : Mode) : Pattern → Option Mode
  | .empty => some m
  | .symbol s => if s.fits m then some m else none
  | .set negated members => ((members.extent? m).bind (Extent.bracketed? m negated)).map fun _ => m
  | .switch s => some (m.after s)
  | .repeated p => modeAfter? m p
  | .group _ s p => (modeAfter? (m.after s) p).map fun _ => m
  | .sequence ps | .choice ps => modeAfterAll? m ps

def modeAfterAll? (m : Mode) : List Pattern → Option Mode
  | [] => some m
  | p :: rest => (modeAfter? m p).bind fun m => modeAfterAll? m rest

end

/-- A pattern that values can be held against: not too deep, with no name for two groups, of parts that can be used. -/
def isUsable (p : Pattern) : Bool :=
  decide (p.depth ≤ maxDepth) && decide p.names.Nodup && (modeAfter? ⟨false, true⟩ p).isSome

end Pattern
end Log
end TaskLifecycle
