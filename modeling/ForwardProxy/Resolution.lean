import ForwardProxy.Config
import ForwardProxy.Decision
import ForwardProxy.Exclusions
import ForwardProxy.Url.Parse

/-!
This module contains the resolution of requests: which proxy is asked for, whether the request is
excluded from it, and what the configured text means.
-/

namespace ForwardProxy

/-- How a configured proxy is understood: as it is written, as if `http://` stood before it, or not
at all. -/
inductive Reading
  | asWritten (intercept : Intercept)
  | repaired (intercept : Intercept)
  | unusable (failure : Failure)
  deriving DecidableEq, Repr

namespace Reading

def decision : Reading → Decision
  | .asWritten intercept | .repaired intercept => .resolved intercept
  | .unusable failure => .invalid failure

def intercept? (proxy : Text) : Option Intercept :=
  match Url.parse proxy with
  | .ok url => Intercept.ofUrl? url
  | .error _ => none

def failure (proxy : Text) : Failure :=
  match Url.parse proxy with
  | .ok url => .unsupportedScheme proxy url.scheme
  | .error error => .invalidProxy proxy error

def ofText (proxy : Text) : Reading :=
  match intercept? proxy, intercept? ("http://".toList ++ proxy) with
  | some intercept, _ => .asWritten intercept
  | none, some intercept => .repaired intercept
  | none, none => .unusable (failure proxy)

end Reading

def parseProxy (proxy : Text) : Decision :=
  (Reading.ofText proxy).decision

inductive Resolution
  | notConfigured
  | bypassed (address : Text) (verdict : Exclusions.Verdict)
  | read (proxy : Text) (reading : Reading)
  deriving DecidableEq, Repr

def Resolution.decision : Resolution → Decision
  | .notConfigured => .notConfigured
  | .bypassed _ _ => .bypassed
  | .read _ reading => reading.decision

namespace Config

/-- A proxy is read last, so only a request that would go through it fails on its account. -/
def resolution (c : Config) (url : Url) : Resolution :=
  let proxy := c.candidate url.scheme
  if proxy.isEmpty then .notConfigured
  else
    let address := url.canonicalAddress
    match (Exclusions.ofText c.noProxy).verdict address with
    | .proxied => .read proxy (Reading.ofText proxy)
    | verdict => .bypassed address verdict

def resolve (c : Config) (url : Url) : Decision :=
  (c.resolution url).decision

def proxyFor (c : Config) (url : Url) : Except Failure (Option Url) :=
  (c.resolve url).toResult

end Config

end ForwardProxy
