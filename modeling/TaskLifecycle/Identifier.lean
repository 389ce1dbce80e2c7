import TaskLifecycle.Text.Decimal

/-!
# TaskLifecycle.Identifier — prefixed identifiers

An identifier is the tag of a kind of thing, an underscore and a number of 64 bits: 32 bits of seconds since an epoch,
21 bits of the worker, 10 bits of a sequence, 1 bit of version.  Numbers grow with time.

* `compose`: the number; `seconds`: the time in it;
* `text`, `read`: the identifier as text;
* `Source`: where the numbers of one process come from.
-/

namespace TaskLifecycle
namespace Identifier

/-! ## Numbers -/

/-- Seconds from 1970 to the start of the numbers' time, 20 June 2022. -/
def epoch : Nat := 1655683200

def version : Nat := 0

/-- The number for a moment, a worker and a place in the sequence; each is cut to its bits, a moment before the epoch
counts as the epoch. -/
def compose (now worker sequence : Nat) : Nat :=
  (now - epoch) % Nat.pow 2 32 * Nat.pow 2 32 + worker % Nat.pow 2 21 * Nat.pow 2 11 +
    sequence % Nat.pow 2 10 * 2 + version

/-- The seconds since the epoch in a number. -/
def seconds (number : Nat) : Nat :=
  number / Nat.pow 2 32 % Nat.pow 2 32

/-- The largest place in the sequence, and the number of places before they repeat. -/
def sequenceMax : Nat := 1023

/-- Where the numbers of a process come from: its worker, where its sequence starts, and how many it has given out. -/
structure Source where
  worker : Nat
  start : Nat
  count : Nat

namespace Source

/-- The place in the sequence of the number given out next. -/
def place (s : Source) : Nat :=
  (s.start + s.count) % sequenceMax

/-- The number for a moment. -/
def next (s : Source) (now : Nat) : Nat × Source :=
  (compose now s.worker s.place, { s with count := s.count + 1 })

/-- The numbers for a list of moments. -/
def numbers (s : Source) : List Nat → List Nat
  | [] => []
  | now :: rest => (s.next now).1 :: (s.next now).2.numbers rest

end Source

/-! ## Kinds -/

/-- What an identifier stands for. -/
inductive Kind where
  | task
  | step
  | artifact
  | organization
  | workflow
  | workflowPermanent
  | workflowRun
  | workflowRunBlock
  | credential
  | browserSession
  | action
deriving DecidableEq, Repr

namespace Kind

def all : List Kind :=
  [.task, .step, .artifact, .organization, .workflow, .workflowPermanent, .workflowRun, .workflowRunBlock,
   .credential, .browserSession, .action]

/-- The text before the underscore. -/
def tag : Kind → String
  | .task => "tsk"
  | .step => "stp"
  | .artifact => "a"
  | .organization => "o"
  | .workflow => "w"
  | .workflowPermanent => "wpid"
  | .workflowRun => "wr"
  | .workflowRunBlock => "wrb"
  | .credential => "cred"
  | .browserSession => "pbs"
  | .action => "act"

def ofTag? (s : String) : Option Kind :=
  all.find? (fun k => k.tag == s)

end Kind

/-! ## Text -/

/-- Why text is not an identifier. -/
inductive Fault where
  | noUnderscore (id : String)
  | unknownTag (tag : String)
  | badNumber (id : String) (fault : Decimal.Fault)
deriving DecidableEq

namespace Fault

def message : Fault → String
  | .noUnderscore id => "Malformed id: " ++ id
  | .unknownTag tag => "Unknown id prefix: " ++ tag
  | .badNumber id fault => "Malformed id " ++ id ++ ": " ++ fault.message

end Fault

/-- The identifier of a kind with a number. -/
def text (kind : Kind) (number : Nat) : String :=
  kind.tag ++ "_" ++ Decimal.text number

/-- The kind that a tag names. -/
def readTag (tag : String) : Except Fault Kind :=
  match Kind.ofTag? tag with
  | some kind => .ok kind
  | none => .error (.unknownTag tag)

/-- The text before the last underscore, and the text after it. -/
def splitLast (cs : List Char) : Option (List Char × List Char) :=
  let tail := (cs.reverse.takeWhile (· ≠ '_')).reverse
  if tail.length = cs.length then none else some (cs.take (cs.length - tail.length - 1), tail)

/-- Kind and number of an identifier. -/
def read (id : String) : Except Fault (Kind × Nat) :=
  match splitLast id.toList with
  | none => .error (.noUnderscore id)
  | some (tag, digits) =>
    match readTag (String.ofList tag) with
    | .error fault => .error fault
    | .ok kind =>
      match Decimal.readNatural (UInt64.size - 1) digits with
      | .ok number => .ok (kind, number)
      | .error fault => .error (.badNumber id fault)

end Identifier
end TaskLifecycle
