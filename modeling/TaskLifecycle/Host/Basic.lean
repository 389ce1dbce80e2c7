import TaskLifecycle.Url.Percent
import TaskLifecycle.Host.Ipv6

/-!
# TaskLifecycle.Host.Basic — the host of a URL

A host is an address in brackets, a numeric name or a name.  The hosts of schemes that are not of the web are opaque:
they are looked at only for characters that no host holds.
-/

namespace TaskLifecycle
namespace Host

/-- Why text is not a host. -/
inductive Fault where
  | empty
  | badIpv4
  | badIpv6
  | badName
  | badCharacter
deriving DecidableEq

namespace Fault

def message : Fault → String
  | .empty => "empty host"
  | .badIpv4 => "invalid IPv4 address"
  | .badIpv6 => "invalid IPv6 address"
  | .badName => "invalid international domain name"
  | .badCharacter => "invalid domain character"

end Fault

/-- The address between brackets, if the text starts with one. -/
def bracketed (cs : List Char) : Option (Except Fault (List Char)) :=
  match cs with
  | '[' :: rest =>
    if rest.getLast? = some ']' then
      match Ipv6.read rest.dropLast with
      | some ps => some (.ok (Ipv6.write ps))
      | none => some (.error .badIpv6)
    else some (.error .badIpv6)
  | _ => none

/-- The written form of a host. -/
def read (cs : List Char) : Except Fault (List Char) :=
  match bracketed cs with
  | some result => result
  | none =>
    match (Url.Percent.decode cs).bind toAscii with
    | none => .error .badName
    | some name =>
      if name.isEmpty then .error .empty
      else if Ipv4.looksNumeric name then
        match Ipv4.read name with
        | some address => .ok (Ipv4.write address).toList
        | none => .error .badIpv4
      else .ok name

/-- What an opaque host cannot hold. -/
def isForbiddenOpaque (c : Char) : Bool :=
  ['\x00', '\t', '\n', '\r', ' ', '#', '/', ':', '<', '>', '?', '@', '[', '\\', ']', '^', '|'].contains c

/-- Whether text can be an opaque host. -/
def checkOpaque (cs : List Char) : Except Fault Unit :=
  match bracketed cs with
  | some result => result.map (fun _ => ())
  | none => if cs.any isForbiddenOpaque then .error .badCharacter else .ok ()

end Host
end TaskLifecycle
