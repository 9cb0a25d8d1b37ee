/-!
# What can be wrong with a source reference
-/
namespace Switchboard.Source

/-- Why a text is not a reference to a source. -/
inductive Fault
  | empty
  /-- It contains a blank or control character. -/
  | blankOrControl
  | emptyHost
  | port
  | ipv4
  | ipv6
  /-- The host of a scheme without rules of its own contains a reserved character. -/
  | hostCharacter
  /-- The host is not a domain name. -/
  | domainName
  deriving DecidableEq, Repr

/-- The wording of a fault. -/
def Fault.message : Fault → String
  | empty => "empty"
  | blankOrControl => "contains whitespace or control characters"
  | emptyHost => "empty host"
  | port => "invalid port number"
  | ipv4 => "invalid IPv4 address"
  | ipv6 => "invalid IPv6 address"
  | hostCharacter => "invalid domain character"
  | domainName => "invalid international domain name"

end Switchboard.Source
