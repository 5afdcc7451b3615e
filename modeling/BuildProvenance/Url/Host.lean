import BuildProvenance.Url.Basic
import BuildProvenance.Url.Domain
import BuildProvenance.Url.Ipv4
import BuildProvenance.Url.Ipv6
import BuildProvenance.Url.Error

/-!
# Hosts

A host in brackets is an IPv6 address.  Below a special scheme any other host
is a domain name, or an IPv4 address if its last label is a number; below
other schemes it is only checked for characters that no host can have.
-/

namespace BuildProvenance.Url.Host

/-- Characters that end a host below any scheme. -/
def isForbidden (c : Char) : Bool :=
  c.toNat = 0 || isDropped c ||
    c ∈ [' ', '#', '/', ':', '<', '>', '?', '@', '[', backslash, ']', '^', '|']

def bracketed (text : List Char) : Except ParseError (List Char) :=
  if text.getLast? = some ']' then (Ipv6.parse text.dropLast).map Ipv6.render
  else .error .invalidIpv6

/-- A host below a special scheme. -/
def parseDomain (text : List Char) : Except ParseError (List Char) :=
  match Utf8.decode? (Percent.decode (Utf8.encode (String.ofList text))) with
  | none => .error .invalidInternationalDomain
  | some name =>
    match Domain.toAscii name.toList with
    | .error error => .error error
    | .ok [] => .error .emptyHost
    | .ok domain =>
      if Ipv4.endsInNumber domain then (Ipv4.parse domain).map Ipv4.render else .ok domain

/-- A host below any other scheme. -/
def parsePlain (text : List Char) : Except ParseError (List Char) :=
  if text.any isForbidden then .error .invalidDomainCharacter
  else .ok (Percent.encode isControl text)

def parse (kind : SchemeKind) (text : List Char) : Except ParseError (List Char) :=
  match kind, text with
  | .special, [] => .error .emptyHost
  | .file, [] => .ok []
  | _, '[' :: rest => bracketed rest
  | .other, text => parsePlain text
  | .special, text => parseDomain text
  | .file, text =>
    (parseDomain text).map fun host => if String.ofList host = "localhost" then [] else host

end BuildProvenance.Url.Host
