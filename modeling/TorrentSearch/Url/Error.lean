/-!
# Why a text is no URL
-/

namespace TorrentSearch.Url

/-- The cause for which a text is no absolute URL. -/
inductive Error where
  | emptyHost
  | invalidHostName
  | invalidPort
  | invalidIpv4
  | invalidIpv6
  | invalidDomainCharacter
  | relative
deriving DecidableEq, Repr

def Error.message : Error → String
  | emptyHost => "empty host"
  | invalidHostName => "invalid international domain name"
  | invalidPort => "invalid port number"
  | invalidIpv4 => "invalid IPv4 address"
  | invalidIpv6 => "invalid IPv6 address"
  | invalidDomainCharacter => "invalid domain character"
  | relative => "relative URL without a base"

end TorrentSearch.Url
