import ForwardProxy.Url.Host

/-!
This module contains the reading of authorities: credentials up to the last at sign, a host, and a
port.
-/

namespace ForwardProxy.Url

open Text (isDecimal number?)

/-- The parts of an authority, before they are read. The port starts with its colon. -/
structure RawAuthority where
  credentials : Option Text
  host : Text
  port : Text

def cutHost (inBrackets : Bool) : Text → Text × Text
  | [] => ([], [])
  | c :: rest =>
    if c = ':' ∧ !inBrackets then ([], c :: rest)
    else
      let (host, port) := cutHost (c = '[' || (inBrackets && c != ']')) rest
      (c :: host, port)

def RawAuthority.cut (s : Text) : RawAuthority :=
  match Text.cutLast? '@' s with
  | some (credentials, rest) =>
    let (host, port) := cutHost false rest
    ⟨some credentials, host, port⟩
  | none =>
    let (host, port) := cutHost false s
    ⟨none, host, port⟩

def readCredentials (s : Text) : Text × Text :=
  match Text.cutFirst? ':' s with
  | some (username, password) =>
    (Percent.encode keepsInCredentials username, Percent.encode keepsInCredentials password)
  | none => (Percent.encode keepsInCredentials s, [])

def readPort (s : Text) : Except ParseError (Option UInt16 × Text) :=
  match s with
  | [] => .ok (none, [])
  | _ :: s =>
    let digits := s.takeWhile isDecimal
    let rest := s.dropWhile isDecimal
    if rest.isEmpty || rest.head? = some '\\' then
      match number? 10 digits with
      | none => .ok (none, rest)
      | some n => if n < UInt16.size then .ok (some (UInt16.ofNat n), rest) else .error .invalidPort
    else .error .invalidPort

def RawAuthority.isBare (raw : RawAuthority) (isLast : Bool) : Bool :=
  raw.credentials = some [] && raw.host.isEmpty && raw.port.isEmpty && !isLast

def serverAuthority (defaultPort : UInt16) (s : Text) : Except ParseError Authority := do
  let raw := RawAuthority.cut s
  if raw.host.isEmpty then throw .emptyHost
  let host ← serverHost raw.host
  let (port, _) ← readPort raw.port
  let (username, password) := readCredentials (raw.credentials.getD [])
  return ⟨username, password, some host, if port = some defaultPort then none else port⟩

/-- Any other authority, and what a backslash after the port cuts off from it. A host may be left
out, but then there is nothing else. -/
def genericAuthority (s : Text) (isLast : Bool) : Except ParseError (Authority × Text) := do
  let raw := RawAuthority.cut s
  if raw.isBare isLast then throw .emptyHost
  let host ← genericHost raw.host
  let (username, password) := readCredentials (raw.credentials.getD [])
  if raw.host.isEmpty then
    let authority := ⟨username, password, none, none⟩
    if raw.port.isEmpty && authority.isAnonymous then return (authority, [])
    else throw .emptyHost
  else
    let (port, rest) ← readPort raw.port
    return (⟨username, password, some host, port⟩, rest)

end ForwardProxy.Url
