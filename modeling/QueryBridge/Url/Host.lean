import QueryBridge.Url.Percent
import QueryBridge.Url.Ipv4
import QueryBridge.Url.Ipv6
import QueryBridge.Url.Domain.Ascii

/-!
# Hosts

The host of a web address is an IPv6 address in brackets, an IPv4 address or a domain
name. Elsewhere a host that is no IPv6 address is any text without separators.
-/

set_option autoImplicit false

namespace QueryBridge.Url

/-- Why a text is no URL. -/
inductive Fault where
  | emptyHost
  | invalidDomainName
  | invalidDomainCharacter
  | invalidServiceNumber
  | invalidIpv4Address
  | invalidIpv6Address
  | relativeWithoutBase
  deriving DecidableEq, Repr

/-- The wording of a fault. -/
def Fault.message : Fault → String
  | .emptyHost => "empty host"
  | .invalidDomainName => "invalid international domain name"
  | .invalidDomainCharacter => "invalid domain character"
  | .invalidServiceNumber => "invalid port number"
  | .invalidIpv4Address => "invalid IPv4 address"
  | .invalidIpv6Address => "invalid IPv6 address"
  | .relativeWithoutBase => "relative URL without a base"

/-- A host. -/
inductive Host where
  | domain (name : List Char)
  | ipv4 (address : Nat)
  | ipv6 (pieces : List Nat)
  deriving DecidableEq, Repr

namespace Host

/-- The address in brackets that a text begins. -/
def parseBrackets (s : List Char) : Except Fault Host :=
  if s.getLast? = some ']' then
    match Ipv6.parse? s.tail.dropLast with
    | some pieces => .ok (.ipv6 pieces)
    | none => .error .invalidIpv6Address
  else .error .invalidIpv6Address

/-- The host of a domain name in ASCII. -/
def ofAscii (name : List Char) : Except Fault Host :=
  if name.isEmpty then .error .emptyHost
  else if Ipv4.isMeant name then
    match Ipv4.parse? name with
    | some address => .ok (.ipv4 address)
    | none => .error .invalidIpv4Address
  else .ok (.domain name)

/-- The host of a web address. -/
def parse (s : List Char) : Except Fault Host :=
  if s.head? = some '[' then parseBrackets s
  else
    match Domain.toAscii? (Percent.decode s) with
    | some name => ofAscii name
    | none => .error .invalidDomainName

/-- The characters that a host outside the web does not hold. -/
def separators : List Char :=
  ['\x00', '\t', '\n', '\r', ' ', '#', '/', ':', '<', '>', '?', '@', '[', '\\', ']', '^', '|']

/-- The host of an address outside the web. -/
def parseOpaque (s : List Char) : Except Fault Host :=
  if s.head? = some '[' then parseBrackets s
  else if s.any separators.contains then .error .invalidDomainCharacter
  else .ok (.domain (Percent.encode [] s))

/-- The text of a host. -/
def write : Host → List Char
  | .domain name => name
  | .ipv4 address => Ipv4.write address
  | .ipv6 pieces => Ipv6.write pieces

end Host

end QueryBridge.Url
