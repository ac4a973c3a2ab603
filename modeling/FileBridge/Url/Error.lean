/-!
Why a text is no URL.
-/
namespace FileBridge

/-- Why a text is no URL. -/
inductive UrlError where
  | noScheme
  | badDomain
  | badHostCharacter
  | emptyHost
  | badPort
  | badIpv4
  | badIpv6
deriving DecidableEq, Repr

def UrlError.message : UrlError → String
  | .noScheme => "relative URL without a base"
  | .badDomain => "invalid international domain name"
  | .badHostCharacter => "invalid domain character"
  | .emptyHost => "empty host"
  | .badPort => "invalid port number"
  | .badIpv4 => "invalid IPv4 address"
  | .badIpv6 => "invalid IPv6 address"

end FileBridge
