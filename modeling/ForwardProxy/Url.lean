import ForwardProxy.Ip

/-!
This module contains URLs: their parts, the characters that each part may hold as they are, the text
that a URL is written as, and the causes for which a text is not a URL.
-/

namespace ForwardProxy

namespace Url

inductive ParseError
  | emptyHost
  | invalidDomainName
  | invalidPort
  | invalidIpv4
  | invalidIpv6
  | invalidDomainCharacter
  | missingBase
  deriving DecidableEq, Repr

namespace ParseError

def name : ParseError → Text
  | .emptyHost => "EmptyHost".toList
  | .invalidDomainName => "IdnaError".toList
  | .invalidPort => "InvalidPort".toList
  | .invalidIpv4 => "InvalidIpv4Address".toList
  | .invalidIpv6 => "InvalidIpv6Address".toList
  | .invalidDomainCharacter => "InvalidDomainCharacter".toList
  | .missingBase => "RelativeUrlWithoutBase".toList

def message : ParseError → Text
  | .emptyHost => "empty host".toList
  | .invalidDomainName => "invalid international domain name".toList
  | .invalidPort => "invalid port number".toList
  | .invalidIpv4 => "invalid IPv4 address".toList
  | .invalidIpv6 => "invalid IPv6 address".toList
  | .invalidDomainCharacter => "invalid domain character".toList
  | .missingBase => "relative URL without a base".toList

end ParseError

/-- A domain is stored as it is written, so with percent signs if it had to be encoded. -/
inductive Host
  | domain (name : Text)
  | ipv4 (address : Ip.V4)
  | ipv6 (address : Ip.V6)
  deriving DecidableEq, Repr

def Host.toText : Host → Text
  | .domain name => name
  | .ipv4 address => address.toText
  | .ipv6 address => '[' :: address.toText ++ [']']

/-- What follows the two slashes. A password is only written if it is not empty, and a port only if
it is not the one that the scheme implies. -/
structure Authority where
  username : Text
  password : Text
  host : Option Host
  port : Option UInt16
  deriving DecidableEq, Repr

def Authority.isAnonymous (a : Authority) : Bool :=
  a.username.isEmpty && a.password.isEmpty

def Authority.toText (a : Authority) : Text :=
  let password := if a.password.isEmpty then [] else ':' :: a.password
  let credentials := if a.isAnonymous then [] else a.username ++ password ++ ['@']
  let host := (a.host.map Host.toText).getD []
  let port := (a.port.map fun n => ':' :: Text.ofNat n.toNat).getD []
  credentials ++ host ++ port

inductive Path
  | segments (list : List Text)
  | plain (text : Text)
  deriving DecidableEq, Repr

def Path.toText : Path → Text
  | .segments list => list.flatMap ('/' :: ·)
  | .plain text => text

-- No part holds anything but printable ASCII characters as it is.

def keepsInPlain (c : Char) : Bool :=
  0x20 ≤ c.toNat && c.toNat < 0x7F

def keepsInFragment (c : Char) : Bool :=
  keepsInPlain c && !(c ∈ [' ', '"', '<', '>', '\x60'])

def keepsInPath (c : Char) : Bool :=
  keepsInFragment c && !(c ∈ ['#', '?', '\x7b', '\x7d'])

def keepsInCredentials (c : Char) : Bool :=
  keepsInPath c && !(c ∈ ['/', ':', ';', '=', '@', '[', '\\', ']', '^', '|'])

def keepsInQuery (c : Char) : Bool :=
  keepsInPlain c && !(c ∈ [' ', '"', '#', '<', '>'])

def keepsInServerQuery (c : Char) : Bool :=
  keepsInQuery c && c != '\''

end Url

structure Url where
  scheme : Text
  authority : Option Url.Authority
  path : Url.Path
  query : Option Text
  fragment : Option Text
  deriving DecidableEq, Repr

namespace Url

def host? (u : Url) : Option Host :=
  u.authority.bind Authority.host

def port? (u : Url) : Option UInt16 :=
  u.authority.bind Authority.port

/-- A path without an authority must not look like one, so it does not start with two slashes. -/
def toText (u : Url) : Text :=
  let path := u.path.toText
  let front :=
    match u.authority with
    | some a => "//".toList ++ a.toText
    | none => if "//".toList.isPrefixOf path then "/.".toList else []
  let query := (u.query.map ('?' :: ·)).getD []
  let fragment := (u.fragment.map ('#' :: ·)).getD []
  u.scheme ++ ':' :: front ++ path ++ query ++ fragment

end Url

end ForwardProxy
