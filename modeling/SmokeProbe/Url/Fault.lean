/-!
# What is wrong with a URL

The reasons for which a text is not a URL.
-/
namespace SmokeProbe.Url

inductive Fault where
  | emptyHost
  | badDomain
  | badDomainCharacter
  | badPort
  | badIpv4
  | badIpv6
  | noBase
deriving DecidableEq, Repr

def Fault.message : Fault → String
  | .emptyHost => "empty host"
  | .badDomain => "invalid international domain name"
  | .badDomainCharacter => "invalid domain character"
  | .badPort => "invalid port number"
  | .badIpv4 => "invalid IPv4 address"
  | .badIpv6 => "invalid IPv6 address"
  | .noBase => "relative URL without a base"

end SmokeProbe.Url
