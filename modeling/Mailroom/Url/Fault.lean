/-!
# What is wrong with a URL

The reasons for which a text is no absolute URL.
-/

namespace Mailroom.Url

/-- Why a text is no URL. -/
inductive Fault
  | noScheme
  | emptyHost
  | hostName
  | hostCharacter
  | portNumber
  | ipv4
  | ipv6
deriving DecidableEq, Repr

namespace Fault

/-- The reason in words. -/
def reason : Fault → String
  | noScheme => "relative URL without a base"
  | emptyHost => "empty host"
  | hostName => "invalid international domain name"
  | hostCharacter => "invalid domain character"
  | portNumber => "invalid port number"
  | ipv4 => "invalid IPv4 address"
  | ipv6 => "invalid IPv6 address"

/-- The reason as one word. -/
def label : Fault → String
  | noScheme => "RelativeUrlWithoutBase"
  | emptyHost => "EmptyHost"
  | hostName => "IdnaError"
  | hostCharacter => "InvalidDomainCharacter"
  | portNumber => "InvalidPort"
  | ipv4 => "InvalidIpv4Address"
  | ipv6 => "InvalidIpv6Address"

end Fault

end Mailroom.Url
