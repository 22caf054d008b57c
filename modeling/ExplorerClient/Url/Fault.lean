/-!
# Why a text is no address
-/

namespace ExplorerClient.Url

/-- Why a text is no address. -/
inductive Fault where
  /-- It does not begin with a scheme. -/
  | noScheme
  /-- It names no host where one is needed. -/
  | noHost
  /-- The name of its host cannot be written in ASCII. -/
  | name
  /-- The name of its host holds a character that it must not hold. -/
  | character
  /-- Its host is no address of four bytes, but ends like one. -/
  | ipv4
  /-- Its host is no address of eight pieces, but is bracketed like one. -/
  | ipv6
  /-- Its port is no number of two bytes. -/
  | port
  deriving DecidableEq

/-- The words for a fault. -/
def Fault.message : Fault → String
  | noScheme => "relative URL without a base"
  | noHost => "empty host"
  | name => "invalid international domain name"
  | character => "invalid domain character"
  | ipv4 => "invalid IPv4 address"
  | ipv6 => "invalid IPv6 address"
  | port => "invalid port number"

end ExplorerClient.Url
