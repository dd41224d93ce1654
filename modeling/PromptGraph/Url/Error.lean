/-!
# Address Errors

Why a text is not a URL.

## Main definitions

* `UrlError`: The causes.
* `UrlError.message`: Their wording.
-/

namespace PromptGraph

/-- Why a text is not a URL. -/
inductive UrlError where
  | emptyHost
  | invalidDomainName
  | invalidPort
  /-- The host ends in a number and is not an address of four bytes. -/
  | invalidIpv4
  /-- The host in brackets is not an address of eight groups. -/
  | invalidIpv6
  /-- The host has a character that no host may have. -/
  | invalidDomainCharacter
  | relative
  deriving DecidableEq, Repr

namespace UrlError

/-- The wording of a cause. -/
def message : UrlError → String
  | .emptyHost => "empty host"
  | .invalidDomainName => "invalid international domain name"
  | .invalidPort => "invalid port number"
  | .invalidIpv4 => "invalid IPv4 address"
  | .invalidIpv6 => "invalid IPv6 address"
  | .invalidDomainCharacter => "invalid domain character"
  | .relative => "relative URL without a base"

end UrlError

end PromptGraph
