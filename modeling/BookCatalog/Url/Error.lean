/-!
# What can be wrong with an address
-/

namespace BookCatalog.Url

inductive Error where
  | emptyHost
  | badDomain
  | badPort
  | badIpv4
  | badIpv6
  | badHostCharacter
  | noBase
  deriving DecidableEq

def Error.message : Error → String
  | .emptyHost => "empty host"
  | .badDomain => "invalid international domain name"
  | .badPort => "invalid port number"
  | .badIpv4 => "invalid IPv4 address"
  | .badIpv6 => "invalid IPv6 address"
  | .badHostCharacter => "invalid domain character"
  | .noBase => "relative URL without a base"

end BookCatalog.Url
