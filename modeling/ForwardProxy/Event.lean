import ForwardProxy.Config.Environment
import ForwardProxy.Request

/-!
This module contains the events that tell what was loaded, and how requests were resolved.
-/

namespace ForwardProxy

inductive Event
  | configLoaded (config : Config)
  | nameKept (host : Text)
  | entryMatched (host : Text) (pattern : Exclusions.Pattern)
  | bypassed (address : Text)
  | httpAssumed (proxy : Text) (repaired : Url)
  | resolved (request : Url) (decision : Decision)
  deriving DecidableEq, Repr

namespace Event

inductive Level
  | trace
  | debug
  deriving DecidableEq, Repr

def Level.name : Level → Text
  | .trace => "TRACE".toList
  | .debug => "DEBUG".toList

def target : Text := "proxyenv::proxy".toList

def level : Event → Level
  | .bypassed _ | .httpAssumed _ _ => .debug
  | _ => .trace

def message : Event → Text
  | .configLoaded _ => "proxy config loaded".toList
  | .nameKept _ => "IDNA conversion failed, keeping host as is".toList
  | .entryMatched _ _ => "matched NO_PROXY entry".toList
  | .bypassed _ => "proxy bypassed".toList
  | .httpAssumed _ _ => "assumed http:// for proxy".toList
  | .resolved _ _ => "resolved proxy".toList

def fields : Event → List (Text × Text)
  | .configLoaded c =>
    [("http_proxy".toList, c.httpProxy), ("https_proxy".toList, c.httpsProxy),
      ("no_proxy".toList, c.noProxy)]
  | .nameKept host => [("host".toList, host), ("error".toList, "Errors".toList)]
  | .entryMatched host pattern => [("host".toList, host), ("pattern".toList, pattern.text)]
  | .bypassed address => [("addr".toList, address)]
  | .httpAssumed proxy repaired =>
    [("proxy".toList, proxy), ("repaired".toList, repaired.toText)]
  | .resolved request decision =>
    [("request".toList, request.toText), ("decision".toList, decision.name)]

end Event

def Url.events (u : Url) : List Event :=
  match asciiName? u.hostName with
  | some _ => []
  | none => [.nameKept u.hostName]

def Exclusions.Verdict.events : Exclusions.Verdict → List Event
  | .covered host pattern => [.entryMatched host pattern]
  | _ => []

def Reading.events (proxy : Text) : Reading → List Event
  | .repaired intercept => [.httpAssumed proxy intercept.proxy]
  | _ => []

def Resolution.events (url : Url) : Resolution → List Event
  | .notConfigured => []
  | .bypassed address verdict => url.events ++ verdict.events ++ [.bypassed address]
  | .read proxy reading => url.events ++ reading.events proxy

/-- What is reported while a configuration is loaded and a request is resolved. A request without a
URL is not reported. -/
def resolutionEvents (request : Request) (c : Config) : List Event :=
  match request.toUrl with
  | .error _ => []
  | .ok url =>
    let resolution := c.resolution url
    resolution.events url ++ [.resolved url resolution.decision]

def Config.Loaded.events (loaded : Config.Loaded) : List Event :=
  [.configLoaded loaded.config]

end ForwardProxy
