/-! # Why a text is no address of a server -/

namespace AssetAccess.Url

/-- Why a text is no address of a server. -/
inductive Fault where
  | emptyHost
  | port
  | ipv4
  | ipv6
  | domain
  | noScheme
deriving DecidableEq, Repr

/-- The wording of a fault. -/
def Fault.message : Fault → String
  | .emptyHost => "empty host"
  | .port => "invalid port number"
  | .ipv4 => "invalid IPv4 address"
  | .ipv6 => "invalid IPv6 address"
  | .domain => "invalid international domain name"
  | .noScheme => "relative URL without a base"

end AssetAccess.Url
