import TaskLifecycle.Text.Blank
import TaskLifecycle.Host.Basic
import TaskLifecycle.Url.Path

/-!
# TaskLifecycle.Url.Basic — absolute URLs and their normal form

A URL of the web (`http`, `https`, `ws`, `wss`, `ftp`) always has a host and a path; its normal form has the scheme and
the host in lower case, no port where it is the scheme's own, and no dot segments.  Of a URL of any other scheme only the
scheme is kept, after its authority has been checked.

* `read`: the URL that text writes;
* `Web.text`: the normal form.
-/

namespace TaskLifecycle
namespace Url

/-- Why text is not an absolute URL. -/
inductive Fault where
  | noScheme
  | badPort
  | host (fault : Host.Fault)
deriving DecidableEq

namespace Fault

def message : Fault → String
  | .noScheme => "relative URL without a base"
  | .badPort => "invalid port number"
  | .host fault => fault.message

end Fault

/-- A URL of the web, its parts as they are written. -/
structure Web where
  scheme : List Char
  user : List Char
  password : List Char
  host : List Char
  port : Option Nat
  path : List Char
  query : Option (List Char)
  fragment : Option (List Char)

namespace Web

/-- Name and password before the host. -/
def credentials (w : Web) : List Char :=
  let secret := if w.password.isEmpty then [] else ':' :: w.password
  if w.user.isEmpty ∧ w.password.isEmpty then [] else w.user ++ secret ++ ['@']

/-- The normal form. -/
def text (w : Web) : List Char :=
  w.scheme ++ [':', '/', '/'] ++ w.credentials ++ w.host ++
    ((w.port.map (fun n => ':' :: (toString n).toList)).getD []) ++ w.path ++
    ((w.query.map ('?' :: ·)).getD []) ++ ((w.fragment.map ('#' :: ·)).getD [])

end Web

/-- An absolute URL. -/
inductive Absolute where
  | web (parts : Web)
  | other (scheme : List Char)

/-! ## Scheme -/

def isSchemeChar (c : Char) : Bool :=
  c.isAlphanum || c == '+' || c == '-' || c == '.'

/-- The scheme in lower case, and what follows its colon. -/
def scheme? (cs : List Char) : Option (List Char × List Char) :=
  let name := cs.takeWhile isSchemeChar
  match name, cs.drop name.length with
  | c :: _, ':' :: rest => if c.isAlpha then some (name.map Char.toLower, rest) else none
  | _, _ => none

/-- The port that a scheme of the web has of its own. -/
def ownPort (scheme : List Char) : Option (Option Nat) :=
  match String.ofList scheme with
  | "http" | "ws" => some (some 80)
  | "https" | "wss" => some (some 443)
  | "ftp" => some (some 21)
  | _ => none

/-! ## Authority -/

/-- Where the authority of a URL ends. -/
def endsAuthority (web : Bool) (c : Char) : Bool :=
  c == '/' || c == '?' || c == '#' || (web && c == '\\')

/-- The text before the last `@`, if there is one, and what follows. -/
def splitUser (authority : List Char) : Option (List Char) × List Char :=
  let tail := (authority.reverse.takeWhile (· ≠ '@')).reverse
  if tail.length = authority.length then (none, authority)
  else (some (authority.take (authority.length - tail.length - 1)), tail)

/-- The text before the first colon outside brackets, and the rest from that colon on. -/
def splitHost (inside : Bool) : List Char → List Char × List Char
  | [] => ([], [])
  | c :: rest =>
    if c = ':' ∧ ¬ inside then ([], c :: rest)
    else
      let inside := if c = '[' then true else if c = ']' then false else inside
      let (host, after) := splitHost inside rest
      (c :: host, after)

/-- The number that the digits of a port write, up to 65535. -/
def portNumber (cs : List Char) : Option Nat :=
  cs.foldlM (fun n c => if c.isDigit ∧ 10 * n + (c.toNat - 48) ≤ 65535 then some (10 * n + (c.toNat - 48)) else none) 0

/-- The port after a host, none if it is not written or the scheme's own. -/
def port (own : Option Nat) (cs : List Char) : Except Fault (Option Nat) :=
  match cs with
  | [] | [_] => .ok none
  | _ :: digits =>
    match portNumber digits with
    | none => .error .badPort
    | some n => .ok (if own = some n then none else some n)

/-! ## URLs of the web -/

/-- Query and fragment of what follows a path. -/
def splitTail (cs : List Char) : List Char × Option (List Char) × Option (List Char) :=
  let beforeFragment := cs.takeWhile (· ≠ '#')
  let fragment :=
    match cs.drop beforeFragment.length with
    | [] => none
    | _ :: rest => some (Percent.encode Percent.inFragment rest)
  let path := beforeFragment.takeWhile (· ≠ '?')
  let query :=
    match beforeFragment.drop path.length with
    | [] => none
    | _ :: rest => some (Percent.encode Percent.inQuery rest)
  (path, query, fragment)

/-- Name and password, written as a URL holds them. -/
def readUser (cs : List Char) : List Char × List Char :=
  let user := cs.takeWhile (· ≠ ':')
  (Percent.encode Percent.inUser user, Percent.encode Percent.inUser (cs.drop (user.length + 1)))

def isSlash (c : Char) : Bool :=
  c == '/' || c == '\\'

/-- The URL of the web that follows a scheme and its colon. -/
def readWeb (scheme : List Char) (own : Option Nat) (cs : List Char) : Except Fault Web := do
  let cs := cs.dropWhile isSlash
  let authority := cs.takeWhile (fun c => !endsAuthority true c)
  let (credentials, place) := splitUser authority
  let (host, afterHost) := splitHost false place
  if host.isEmpty then .error (.host .empty)
  let host ← (Host.read host).mapError Fault.host
  let port ← port own afterHost
  let (user, password) := readUser (credentials.getD [])
  let (path, query, fragment) := splitTail (cs.drop authority.length)
  let path := match path with
    | c :: rest => if isSlash c then rest else path
    | [] => []
  .ok { scheme := scheme, user := user, password := password, host := host, port := port, path := Path.normal path,
        query := query, fragment := fragment }

/-! ## Other URLs -/

/-- The host of a URL of files: anything but a drive or nothing is checked as a host. -/
def checkFile (cs : List Char) : Except Fault Unit :=
  match cs with
  | a :: b :: rest =>
    if isSlash a ∧ isSlash b then
      let host := rest.takeWhile (fun c => !(isSlash c || c == '?' || c == '#'))
      if host.isEmpty ∨ Path.isDrive host then .ok ()
      else ((Host.read host).mapError Fault.host).map (fun _ => ())
    else .ok ()
  | _ => .ok ()

/-- The authority of any other URL. -/
def checkOther (cs : List Char) : Except Fault Unit := do
  match cs with
  | '/' :: '/' :: rest =>
    let authority := rest.takeWhile (fun c => !endsAuthority false c)
    let (credentials, place) := splitUser authority
    let after := rest.drop authority.length
    if credentials = some [] ∧ place.isEmpty ∧ ¬ after.isEmpty then .error (.host .empty)
    let (host, afterHost) := splitHost false place
    (Host.checkOpaque host).mapError Fault.host
    if host.isEmpty ∧ ¬ afterHost.isEmpty then .error (.host .empty)
    let digits := (afterHost.drop 1).takeWhile (· ≠ '\\')
    let _ ← port none (':' :: digits)
    let (user, password) := readUser (credentials.getD [])
    if host.isEmpty ∧ ¬ (user.isEmpty ∧ password.isEmpty) then .error (.host .empty)
  | _ => .ok ()

/-! ## Reading -/

/-- Controls and spaces at the ends of a URL do not belong to it, nor do line ends and tabs anywhere. -/
def bare (cs : List Char) : List Char :=
  (Text.strip (fun c => c.toNat ≤ 32) cs).filter (fun c => c ≠ '\t' ∧ c ≠ '\n' ∧ c ≠ '\r')

/-- The absolute URL that text writes. -/
def read (s : String) : Except Fault Absolute :=
  match scheme? (bare s.toList) with
  | none => .error .noScheme
  | some (scheme, rest) =>
    match ownPort scheme with
    | some own => (readWeb scheme own rest).map Absolute.web
    | none =>
      (if String.ofList scheme = "file" then checkFile rest else checkOther rest).map (fun _ => Absolute.other scheme)

end Url
end TaskLifecycle
