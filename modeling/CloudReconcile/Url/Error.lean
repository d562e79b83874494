/-!
# Why a text is no web address
-/

namespace CloudReconcile

inductive UrlError where
  | emptyHost
  | invalidDomain
  | invalidPort
  | invalidIpv4
  | invalidIpv6
  | invalidHostCharacter
  /-- No scheme, so the text could only be read relative to another address. -/
  | relative
deriving DecidableEq, Repr

namespace UrlError

def message : UrlError → String
  | .emptyHost => "empty host"
  | .invalidDomain => "invalid international domain name"
  | .invalidPort => "invalid port number"
  | .invalidIpv4 => "invalid IPv4 address"
  | .invalidIpv6 => "invalid IPv6 address"
  | .invalidHostCharacter => "invalid domain character"
  | .relative => "relative URL without a base"

end UrlError

end CloudReconcile
