import UsageBilling.Address.Ip
import UsageBilling.Address.Percent
import UsageBilling.Domain.Name

/-!
# Hosts

The host of a web address is a numeric address or a domain name, which is
written in ASCII; a name whose last label is a number has to be a numeric
address. The hosts of other addresses are names of any kind.
-/

namespace UsageBilling

/-- What is wrong with an address. -/
inductive AddressFault where
  /-- It has no scheme. -/
  | relative
  | emptyHost
  | badPort
  /-- The host is no domain name. -/
  | badDomain
  | badIpv4
  | badIpv6
  /-- The host holds a character that no host can hold. -/
  | badCharacter
  deriving DecidableEq, Repr

/-- What a fault of an address says. -/
def AddressFault.message : AddressFault → String
  | relative => "relative URL without a base"
  | emptyHost => "empty host"
  | badPort => "invalid port number"
  | badDomain => "invalid international domain name"
  | badIpv4 => "invalid IPv4 address"
  | badIpv6 => "invalid IPv6 address"
  | badCharacter => "invalid domain character"

namespace Address

/-- A host. -/
inductive Host where
  /-- A name; without characters where there is no host. -/
  | name (characters : List Char)
  | ipv4 (address : Ipv4)
  | ipv6 (address : Ipv6)
  deriving DecidableEq, Repr

/-- The characters that no host can hold. -/
def isForbiddenInHost (c : Char) : Bool :=
  "\x00\t\n\r #/:<>?@[\\]^|".toList.contains c

/-- The characters that a domain name cannot hold. -/
def isForbiddenInDomain (c : Char) : Bool :=
  isForbiddenInHost c || c.toNat < 0x20 || c = '%' || c.toNat = 0x7F

namespace Host

/-- No host. -/
def absent : Host := .name []

/-- The host as text. -/
def text : Host → List Char
  | name characters => characters
  | ipv4 address => address.text
  | ipv6 address => '[' :: address.text ++ [']']

/-- The numeric address between brackets. -/
def readBracketed (cs : List Char) : Except AddressFault Host :=
  if cs.getLast? = some ']' then
    match Ipv6.ofText? (cs.drop 1).dropLast with
    | some address => .ok (.ipv6 address)
    | none => .error .badIpv6
  else .error .badIpv6

/-- The host of a web address. -/
def readWeb (cs : List Char) : Except AddressFault Host :=
  if cs.head? = some '[' then readBracketed cs
  else match (percentDecode cs).toOption.bind (Domain.ascii? isForbiddenInDomain) with
    | none => .error .badDomain
    | some [] => .error .emptyHost
    | some domain =>
      if Ipv4.endsInNumber domain then
        match Ipv4.ofHost? domain with
        | some address => .ok (.ipv4 address)
        | none => .error .badIpv4
      else .ok (.name domain)

/-- The host of an address that is not of the web. -/
def readOther (cs : List Char) : Except AddressFault Host :=
  if cs.head? = some '[' then readBracketed cs
  else if cs.any isForbiddenInHost then .error .badCharacter
  else .ok (.name (percentEncode (·.toNat < 0x20) cs))

end Host

end Address

end UsageBilling
