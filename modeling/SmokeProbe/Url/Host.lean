import SmokeProbe.Domain.Ascii
import SmokeProbe.Url.Fault
import SmokeProbe.Url.Ipv4
import SmokeProbe.Url.Ipv6
import SmokeProbe.Url.Percent

/-!
# Hosts

A host is a name or an address. Under a well-known scheme a name is percent-decoded, put into ASCII
and taken for an IPv4 address if its last part is a number; under any other scheme it stays as it is
written.
-/
namespace SmokeProbe.Url

inductive Host where
  | name (text : String)
  | ipv4 (address : Ipv4)
  | ipv6 (address : Ipv6)
deriving DecidableEq, Repr

namespace Host

def text : Host → List Char
  | .name s => s.toList
  | .ipv4 a => a.text
  | .ipv6 a => '[' :: a.text ++ [']']

/-- A host in brackets, after the opening one. -/
def bracketed (s : List Char) : Except Fault Host :=
  match s.reverse with
  | ']' :: inner =>
    match Ipv6.parse? inner.reverse with
    | some a => .ok (.ipv6 a)
    | none => .error .badIpv6
  | _ => .error .badIpv6

/-- The ASCII form of a name that may be percent-encoded. -/
def ascii? (s : List Char) : Option (List Char) :=
  (Text.Utf8.decode? (Percent.decode s)).bind Domain.toAscii?

/-- The host of a URL with a well-known scheme. -/
def parse (s : List Char) : Except Fault Host :=
  match s with
  | '[' :: rest => bracketed rest
  | _ =>
    match ascii? s with
    | none => .error .badDomain
    | some [] => .error .emptyHost
    | some t =>
      if Ipv4.isNumeric t then
        match Ipv4.parse? t with
        | some a => .ok (.ipv4 a)
        | none => .error .badIpv4
      else .ok (.name (String.ofList t))

/-- Characters that a host under any other scheme must not contain. -/
def isForbidden (c : Char) : Bool :=
  ['\x00', '\t', '\n', '\r', ' ', '#', '/', ':', '<', '>', '?', '@', '[', '\x5c', ']', '^',
    '|'].contains c

/-- The host of a URL with any other scheme; it may be empty. -/
def parseOther (s : List Char) : Except Fault Host :=
  match s with
  | '[' :: rest => bracketed rest
  | _ =>
    if s.any isForbidden then .error .badDomainCharacter
    else .ok (.name (String.ofList (Percent.encode Percent.control s)))

end Host

end SmokeProbe.Url
