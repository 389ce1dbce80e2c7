import TaskLifecycle.Unicode.Composition
import TaskLifecycle.Unicode.HostMapping
import TaskLifecycle.Unicode.Direction
import TaskLifecycle.Unicode.Joining
import TaskLifecycle.Host.Punycode

/-!
# TaskLifecycle.Host.Name — host names in ASCII

A host name is read character by character through the mapping of host names, put in composed form and cut at its dots
into labels.  A label that holds more than ASCII is written in Punycode after `xn--`; one that comes so written must
decode to a label that would have been written so.

* `Label.allowed`: what a label with more than ASCII has to satisfy;
* `Label.runsOneWay`: the direction rule, for all labels of a name that runs right to left anywhere;
* `toAscii`: the ASCII form of a name.
-/

namespace TaskLifecycle
namespace Host

open Unicode

/-! ## Labels -/

/-- A label as it is written in ASCII and as it is read. -/
structure Label where
  ascii : List Char
  reading : List Char

namespace Label

/-- The first letter before a joiner that is not passed through. -/
def letterBefore (before : List Char) : Option Char :=
  before.find? (fun c => joining c ≠ .transparent)

/-- A joiner stands after a virama; the non-joiner may also stand between two letters that would join. `before` is
what precedes, last character first. -/
def joinersPlaced (before : List Char) : List Char → Bool
  | [] => true
  | c :: rest =>
    let afterVirama := (before.head?.map isVirama).getD false
    let betweenLetters :=
      ((letterBefore before).map (fun d => joining d = .left ∨ joining d = .dual : Char → Bool)).getD false &&
      ((letterBefore rest).map (fun d => joining d = .right ∨ joining d = .dual : Char → Bool)).getD false
    let placed :=
      if c.toNat = 0x200C then afterVirama || betweenLetters
      else if c.toNat = 0x200D then afterVirama
      else true
    placed && joinersPlaced (c :: before) rest

/-- A label with more than ASCII is composed, holds characters that stand for themselves, does not start with a mark
nor look as if written in Punycode, and places its joiners. -/
def allowed (cs : List Char) : Bool :=
  cs.all isHostChar && composed cs == cs && !((cs.head?.map isMark).getD false) &&
    cs.take 4 != ['x', 'n', '-', '-'] && joinersPlaced [] cs

/-- Longest label, in characters, that has a form in Punycode. -/
def maxReading : Nat := 1000

/-- Longest Punycode, in digits, that is read. -/
def maxCoded : Nat := 2000

/-- The label that mapped text stands for. -/
def ofMapped (cs : List Char) : Option Label :=
  if cs.take 4 = ['x', 'n', '-', '-'] then
    let coded := cs.drop 4
    if coded.isEmpty ∨ coded.getLast? = some '-' ∨ maxCoded < coded.length then none
    else match Punycode.decode coded with
      | some reading => if allowed reading ∧ reading.length ≤ maxReading then some ⟨cs, reading⟩ else none
      | none => none
  else if cs.all (fun c => c.toNat < 128) then some ⟨cs, cs⟩
  else if allowed cs ∧ cs.length ≤ maxReading then some ⟨['x', 'n', '-', '-'] ++ Punycode.encode cs, cs⟩
  else none

/-! ## Direction -/

/-- A character that makes a name run right to left. -/
def turns (c : Char) : Bool :=
  match direction c with
  | .rightToLeft | .arabicLetter | .arabicNumber => true
  | _ => false

/-- What a label may hold besides letters of its own direction. -/
def fits (c : Char) : Bool :=
  match direction c with
  | .europeanNumber | .europeanSeparator | .commonSeparator | .europeanTerminator | .neutral | .boundaryNeutral
  | .mark => true
  | _ => false

/-- Marks at the end do not count for the direction in which a label ends. -/
def lastDirection (cs : List Char) : Option Direction :=
  (cs.reverse.find? (fun c => direction c ≠ .mark)).map direction

/-- A label starts with a letter, holds characters of one direction and ends with a letter or number of it. -/
def runsOneWay (cs : List Char) : Bool :=
  match cs.head?.map direction with
  | none => true
  | some .leftToRight =>
    cs.all (fun c => direction c = .leftToRight ∨ fits c) &&
      (match lastDirection cs with
       | some .leftToRight | some .europeanNumber => true
       | _ => false)
  | some .rightToLeft | some .arabicLetter =>
    cs.all (fun c => turns c || fits c) &&
      (match lastDirection cs with
       | some .rightToLeft | some .arabicLetter | some .europeanNumber | some .arabicNumber => true
       | _ => false) &&
      !(cs.any (fun c => direction c = .europeanNumber) && cs.any (fun c => direction c = .arabicNumber))
  | some _ => false

end Label

/-! ## Names -/

/-- The parts of a text between the places where `sep` holds. -/
def splitWhere (sep : Char → Bool) : List Char → List (List Char)
  | [] => [[]]
  | c :: rest =>
    match splitWhere sep rest with
    | [] => [[c]]
    | part :: parts => if sep c then [] :: part :: parts else (c :: part) :: parts

/-- Parts with `sep` between them. -/
def joinWith (sep : List Char) : List (List Char) → List Char
  | [] => []
  | [part] => part
  | part :: parts => part ++ sep ++ joinWith sep parts

/-- ASCII characters that no host name holds. -/
def isForbidden (c : Char) : Bool :=
  c.toNat ≤ 32 || c.toNat = 127 || ['%', '#', '/', ':', '<', '>', '?', '@', '[', '\\', ']', '^', '|'].contains c

/-- The ASCII form of a host name, if it is one. -/
def toAscii (cs : List Char) : Option (List Char) := do
  let mapped ← cs.mapM hostReading
  let labels ← (splitWhere (· = '.') (composed mapped.flatten)).mapM Label.ofMapped
  if labels.any (fun l => l.reading.any Label.turns) ∧ ¬ labels.all (fun l => Label.runsOneWay l.reading) then none
  let name := joinWith ['.'] (labels.map Label.ascii)
  if name.any isForbidden then none
  some name

end Host
end TaskLifecycle
