import TaskLifecycle.Identifier
import TaskLifecycle.Json.Limits
import TaskLifecycle.Url.Basic

/-!
# TaskLifecycle.Input — checks of what callers hand in

* `Input.Fault`: what is wrong with an input, with its text;
* `Input.url`: an address of the web, in its normal form; `Input.payload`, `Input.entries`: JSON within its limits;
  `Input.steps`: a number of steps.
-/

namespace TaskLifecycle
namespace Input

/-- What is wrong with an input. -/
inductive Fault where
  | emptyUrl (field : String)
  | badUrl (field url : String) (fault : Url.Fault)
  | foreignScheme (field url scheme : String)
  | payload (field : String) (violation : Json.Violation)
  | notAnObject (index : Nat)
  | negativeSteps
  | page (number : UInt32)
  | pageSize (limit size : UInt32)
  | identifier (fault : Identifier.Fault)
  | stated (text : String)
deriving DecidableEq

namespace Fault

def message : Fault → String
  | .emptyUrl field => field ++ " cannot be empty"
  | .badUrl field url fault => "Invalid " ++ field ++ " '" ++ url ++ "': " ++ fault.message
  | .foreignScheme field url scheme => "Invalid " ++ field ++ " '" ++ url ++ "': unsupported scheme " ++ scheme
  | .payload field violation => field ++ ": " ++ violation.message
  | .notAnObject index => "errors[" ++ Decimal.text index ++ "] must be a JSON object"
  | .negativeSteps => "max_steps_per_run cannot be negative"
  | .page number => "Page must be greater than 0, got " ++ Decimal.text number.toNat
  | .pageSize limit size =>
    "Page size must be between 1 and " ++ Decimal.text limit.toNat ++ ", got " ++ Decimal.text size.toNat
  | .identifier fault => fault.message
  | .stated text => text

end Fault

/-- The normal form of an address that begins with `http` or `https`. -/
def url (field raw : String) : Except Fault String :=
  let trimmed := Text.trim raw
  if trimmed = "" then .error (.emptyUrl field)
  else match Url.read trimmed with
    | .error fault => .error (.badUrl field trimmed fault)
    | .ok (.other scheme) => .error (.foreignScheme field trimmed (String.ofList scheme))
    | .ok (.web parts) =>
      let scheme := String.ofList parts.scheme
      if scheme = "http" ∨ scheme = "https" then .ok (String.ofList parts.text)
      else .error (.foreignScheme field trimmed scheme)

/-- A value that keeps the limits of JSON. -/
def payload (field : String) (v : Json) : Except Fault Unit :=
  match v.check with
  | .ok _ => .ok ()
  | .error violation => .error (.payload field violation)

/-- A value that is none or keeps the limits of JSON. -/
def payload? (field : String) : Option Json → Except Fault Unit
  | none => .ok ()
  | some v => payload field v

/-- Entries of a list of errors, the first of them at `index`: objects that keep the limits of JSON. -/
def entries (index : Nat) : List Json → Except Fault Unit
  | [] => .ok ()
  | v :: rest =>
    if ¬ v.isObject then .error (.notAnObject index)
    else match payload "errors" v with
      | .error fault => .error fault
      | .ok _ => entries (index + 1) rest

/-- A number of steps is not negative. -/
def steps : Option Int32 → Except Fault Unit
  | none => .ok ()
  | some n => if n.toInt < 0 then .error .negativeSteps else .ok ()

end Input
end TaskLifecycle
