/-!
# Faults of addresses

Why a text is not the address of something on the net.
-/

namespace BackendAudit.Url

/-- Why a text is not an address. -/
inductive Fault where
  /-- There is no scheme, and nothing that the text could be relative to. -/
  | relative
  /-- The text is relative to an address that has no path of segments. -/
  | relativeToOpaque
  | emptyHost
  | invalidPort
  | invalidIpv4
  | invalidIpv6
  | invalidDomain
  | invalidHostCharacter
  deriving Repr, DecidableEq, Inhabited

/-- The wording of a fault. -/
def Fault.message : Fault → String
  | relative => "relative URL without a base"
  | relativeToOpaque => "relative URL with a cannot-be-a-base base"
  | emptyHost => "empty host"
  | invalidPort => "invalid port number"
  | invalidIpv4 => "invalid IPv4 address"
  | invalidIpv6 => "invalid IPv6 address"
  | invalidDomain => "invalid international domain name"
  | invalidHostCharacter => "invalid domain character"

end BackendAudit.Url
