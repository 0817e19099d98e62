import Webprint.Idna.Domain
import Webprint.Url.Ip
import Webprint.Url.Percent

set_option autoImplicit false

/-!
# Hosts

The host of an address is a name or an IP address. Under the schemes that browsers know, names are
international domain names; under others they are any text without characters that part an address.
-/

namespace Webprint

inductive UrlError where
  | emptyHost
  | invalidName
  | invalidPort
  | invalidIpv4
  | invalidIpv6
  | invalidHostCharacter
  /-- The text has no scheme, so it only makes sense relative to another address. -/
  | noScheme
deriving DecidableEq, Repr

def UrlError.message : UrlError → String
  | .emptyHost => "empty host"
  | .invalidName => "invalid international domain name"
  | .invalidPort => "invalid port number"
  | .invalidIpv4 => "invalid IPv4 address"
  | .invalidIpv6 => "invalid IPv6 address"
  | .invalidHostCharacter => "invalid domain character"
  | .noScheme => "relative URL without a base"

namespace Url

inductive Host where
  | name (text : List Char)
  | ipv4 (address : Nat)
  | ipv6 (groups : List Nat)
deriving DecidableEq, Repr

namespace Host

def text : Host → List Char
  | .name s => s
  | .ipv4 n => Ipv4.text n
  | .ipv6 groups => '[' :: Ipv6.text groups ++ [']']

def bracketed (s : List Char) : Except UrlError Host :=
  if s.getLast? = some ']' then
    match Ipv6.parse? s.tail.dropLast with
    | some groups => .ok (.ipv6 groups)
    | none => .error .invalidIpv6
  else .error .invalidIpv6

def parse (s : List Char) : Except UrlError Host :=
  if s.head? = some '[' then bracketed s
  else
    match Idna.toAscii? (Text.mendUtf8 (percentDecode s)) with
    | none => .error .invalidName
    | some [] => .error .emptyHost
    | some domain =>
      if Ipv4.isMeant domain then
        match Ipv4.parse? domain with
        | some n => .ok (.ipv4 n)
        | none => .error .invalidIpv4
      else .ok (.name domain)

def isForbidden (c : Char) : Bool := "\x00\t\n\x0d #/:<>?@[\\]^|".toList.contains c

def parseOpaque (s : List Char) : Except UrlError Host :=
  if s.head? = some '[' then bracketed s
  else if s.any isForbidden then .error .invalidHostCharacter
  else .ok (.name (percentEncode .controls s))

end Host

end Url

end Webprint
