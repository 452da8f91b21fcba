import ForwardProxy.Text.Quoted
import ForwardProxy.Url

/-!
This module contains the failures of a resolution, their causes and their texts.
-/

namespace ForwardProxy

namespace Failure

inductive Kind
  | request
  | invalidProxy
  | unsupportedScheme
  deriving DecidableEq, Repr

def Kind.name : Kind → Text
  | .request => "Request".toList
  | .invalidProxy => "InvalidProxy".toList
  | .unsupportedScheme => "UnsupportedScheme".toList

inductive Cause
  | parse (error : Url.ParseError)
  | noHost
  | scheme (name : Text)
  | text (text : Text)
  deriving DecidableEq, Repr

def Cause.message : Cause → Text
  | .parse error => error.message
  | .noHost => "URL has no host".toList
  | .scheme name => "unsupported proxy scheme ".toList ++ Text.quote name
  | .text s => s

def Cause.debug : Cause → Text
  | .parse error => error.name
  | .noHost => "NoHost".toList
  | .scheme name => "UnsupportedScheme(".toList ++ Text.quote name ++ [')']
  | .text s => Text.quote s

end Failure

structure Failure where
  kind : Failure.Kind
  cause : Option Failure.Cause
  proxy : Option Text
  deriving DecidableEq, Repr

namespace Failure

def request (cause : Cause) : Failure :=
  ⟨.request, some cause, none⟩

def invalidProxy (proxy : Text) (error : Url.ParseError) : Failure :=
  ⟨.invalidProxy, some (.parse error), some proxy⟩

def unsupportedScheme (proxy scheme : Text) : Failure :=
  ⟨.unsupportedScheme, some (.scheme scheme), some proxy⟩

def isRequest (f : Failure) : Bool :=
  f.kind == .request

def isInvalidProxy (f : Failure) : Bool :=
  f.kind == .invalidProxy

def isUnsupportedScheme (f : Failure) : Bool :=
  f.kind == .unsupportedScheme

def isConfig (f : Failure) : Bool :=
  f.isInvalidProxy || f.isUnsupportedScheme

def Kind.opening : Kind → Text
  | .request => "invalid request URL".toList
  | .invalidProxy => "invalid proxy address".toList
  | .unsupportedScheme => "unsupported proxy address".toList

def message (f : Failure) : Text :=
  let proxy :=
    match f.kind, f.proxy with
    | .request, _ | _, none => []
    | _, some proxy => ' ' :: Text.quote proxy
  let cause := (f.cause.map fun cause => ": ".toList ++ cause.message).getD []
  f.kind.opening ++ proxy ++ cause

def debug (f : Failure) : Text :=
  let cause := (f.cause.map fun cause => ", source: ".toList ++ cause.debug).getD []
  let proxy := (f.proxy.map fun proxy => ", proxy: ".toList ++ Text.quote proxy).getD []
  "proxyenv::Error \x7b kind: ".toList ++ f.kind.name ++ cause ++ proxy ++ " \x7d".toList

end Failure

end ForwardProxy
