import ForwardProxy.Failure
import ForwardProxy.Url

/-!
This module contains the outcomes of a resolution.
-/

namespace ForwardProxy

inductive Via
  | http
  | https
  | socks5
  deriving DecidableEq, Repr

namespace Via

def scheme : Via → Text
  | .http => "http".toList
  | .https => "https".toList
  | .socks5 => "socks5".toList

def name : Via → Text
  | .http => "Http".toList
  | .https => "Https".toList
  | .socks5 => "Socks5".toList

def ofScheme? (scheme : Text) : Option Via :=
  [Via.http, .https, .socks5].find? (·.scheme == scheme)

theorem ofScheme?_scheme (v : Via) : ofScheme? v.scheme = some v := by
  cases v <;> decide

theorem ofScheme?_eq_some_iff {scheme : Text} {v : Via} :
    ofScheme? scheme = some v ↔ v.scheme = scheme := by
  constructor
  · intro h
    have := List.find?_some h
    simpa using this
  · rintro rfl
    exact ofScheme?_scheme v

end Via

structure Intercept where
  proxy : Url
  via : Via
  scheme_eq : via.scheme = proxy.scheme
  deriving DecidableEq, Repr

def Intercept.ofUrl? (proxy : Url) : Option Intercept :=
  match h : Via.ofScheme? proxy.scheme with
  | some via => some ⟨proxy, via, Via.ofScheme?_eq_some_iff.1 h⟩
  | none => none

inductive Decision
  | notConfigured
  | bypassed
  | resolved (intercept : Intercept)
  | invalid (failure : Failure)
  deriving DecidableEq, Repr

namespace Decision

def name : Decision → Text
  | .notConfigured => "NotConfigured".toList
  | .bypassed => "Bypassed".toList
  | .resolved _ => "Resolved".toList
  | .invalid _ => "Invalid".toList

def isDirect : Decision → Bool
  | .notConfigured | .bypassed => true
  | .resolved _ | .invalid _ => false

def toResult : Decision → Except Failure (Option Url)
  | .notConfigured | .bypassed => .ok none
  | .resolved intercept => .ok (some intercept.proxy)
  | .invalid failure => .error failure

end Decision

end ForwardProxy
