import ForwardProxy.Endpoint
import ForwardProxy.Text.LowerCase

/-!
This module contains exclusions: the hosts that are reached directly although a proxy is configured,
and the entries that say which hosts they are.
-/

namespace ForwardProxy

namespace Exclusions

/-- An entry covers a domain and all its subdomains. The text of `subdomain` has a leading dot. -/
inductive Pattern
  | domain (text : Text)
  | subdomain (text : Text)
  deriving DecidableEq, Repr

/-- The form in which hosts and entries are compared. -/
def comparable (s : Text) : Text :=
  Endpoint.stripPort (Text.lower (Text.trim s))

namespace Pattern

def text : Pattern → Text
  | .domain text => text
  | .subdomain text => text

def ofText? (entry : Text) : Option Pattern :=
  match comparable entry with
  | [] => none
  | '.' :: rest => some (.subdomain ('.' :: rest))
  | c :: rest => some (.domain (c :: rest))

def covers (p : Pattern) (host : Text) : Bool :=
  match p with
  | .domain name => host == name || (Text.dropEnd? name host).any (·.getLast? = some '.')
  | .subdomain suffix => suffix.isSuffixOf host || host == suffix.tail

end Pattern

end Exclusions

inductive Exclusions
  | everything
  | listed (patterns : List Exclusions.Pattern)
  deriving DecidableEq, Repr

namespace Exclusions

def ofText (s : Text) : Exclusions :=
  if s = ['*'] then .everything else .listed ((s.splitOn ',').filterMap Pattern.ofText?)

def isWildcard : Exclusions → Bool
  | .everything => true
  | .listed _ => false

def patterns : Exclusions → List Pattern
  | .everything => []
  | .listed patterns => patterns

inductive Verdict
  | proxied
  /-- The address is not an endpoint. -/
  | malformed
  /-- The address is on this machine. -/
  | loopback
  | wildcard
  /-- The first pattern that covers the host. -/
  | covered (host : Text) (pattern : Pattern)
  deriving DecidableEq, Repr

def isLoopback (host : Text) : Bool :=
  host == "localhost".toList || (Ip.ofText? host).any Ip.isLoopback

def verdict (x : Exclusions) (address : Text) : Verdict :=
  if address.isEmpty then .proxied
  else
    match Endpoint.ofText? address with
    | none => .malformed
    | some endpoint =>
      if isLoopback endpoint.host then .loopback
      else
        match x with
        | .everything => .wildcard
        | .listed patterns =>
          let host := comparable address
          match patterns.find? (·.covers host) with
          | some pattern => .covered host pattern
          | none => .proxied

def usesProxy (x : Exclusions) (address : Text) : Bool :=
  x.verdict address == .proxied

end Exclusions

end ForwardProxy
