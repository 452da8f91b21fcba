import ForwardProxy.Resolution
import ForwardProxy.Uri

/-!
This module contains requests in the forms they are passed in. Whatever the form, a request needs a
URL with a host.
-/

namespace ForwardProxy

inductive Request
  | text (s : Text)
  | url (u : Url)
  | uri (u : Uri)
  deriving DecidableEq, Repr

namespace Request

def withHost (u : Url) : Except Failure Url :=
  if u.host?.isSome then .ok u else .error (.request .noHost)

def ofText (s : Text) : Except Failure Url :=
  match Url.parse s with
  | .ok u => withHost u
  | .error e => .error (.request (.parse e))

def toUrl : Request → Except Failure Url
  | .text s => ofText s
  | .url u => withHost u
  | .uri u => ofText u.toText

inductive Form
  | text
  | url
  | uri
  deriving DecidableEq, Repr

inductive Refusal
  | url (e : Url.ParseError)
  | uri (e : Uri.ParseError)
  deriving DecidableEq, Repr

def read (form : Form) (s : Text) : Except Refusal Request :=
  match form with
  | .text => .ok (.text s)
  | .url =>
    match Url.parse s with
    | .ok u => .ok (.url u)
    | .error e => .error (.url e)
  | .uri =>
    match Uri.parse s with
    | .ok u => .ok (.uri u)
    | .error e => .error (.uri e)

end Request

/-- The proxy for a request of any form. The request is looked at before the configuration. -/
def resolveProxy (request : Request) (c : Config) : Except Failure (Option Url) := do
  let url ← request.toUrl
  c.proxyFor url

end ForwardProxy
