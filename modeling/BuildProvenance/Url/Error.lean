/-!
# Why a text is no URL
-/

namespace BuildProvenance.Url

inductive ParseError where
  | emptyHost
  | invalidPort
  | invalidIpv4
  | invalidIpv6
  | invalidDomainCharacter
  | invalidInternationalDomain
  | relativeWithoutBase
  deriving DecidableEq

def ParseError.message : ParseError → String
  | .emptyHost => "empty host"
  | .invalidPort => "invalid port number"
  | .invalidIpv4 => "invalid IPv4 address"
  | .invalidIpv6 => "invalid IPv6 address"
  | .invalidDomainCharacter => "invalid domain character"
  | .invalidInternationalDomain => "invalid international domain name"
  | .relativeWithoutBase => "relative URL without a base"

end BuildProvenance.Url
