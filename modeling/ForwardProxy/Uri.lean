import ForwardProxy.Text

/-!
This module contains URIs as HTTP messages carry them. They are checked and kept as they are, but
for the scheme of the web in small letters, an empty path, and a fragment, which is dropped.
-/

namespace ForwardProxy

structure Uri where
  scheme : Option Text
  authority : Option Text
  path : Text
  query : Option Text
  deriving DecidableEq, Repr

namespace Uri

def toText (u : Uri) : Text :=
  let scheme := (u.scheme.map (· ++ "://".toList)).getD []
  let query := (u.query.map ('?' :: ·)).getD []
  scheme ++ u.authority.getD [] ++ u.path ++ query

inductive ParseError
  | empty
  | tooLong
  | invalidCharacter
  | invalidAuthority
  | invalidFormat
  | schemeTooLong
  deriving DecidableEq, Repr

def ParseError.message : ParseError → Text
  | .empty => "empty string".toList
  | .tooLong => "uri too long".toList
  | .invalidCharacter => "invalid uri character".toList
  | .invalidAuthority => "invalid authority".toList
  | .invalidFormat => "invalid format".toList
  | .schemeTooLong => "scheme too long".toList

def isSchemeChar (c : Char) : Bool :=
  c.isAlphanum || c ∈ ['+', '-', '.', '~']

def isUriChar (c : Char) : Bool :=
  c.isAlphanum || c ∈ "-._~:/?#[]@!$&'()*+,;=".toList

def isPathChar (c : Char) : Bool :=
  0x21 ≤ c.toNat && !(c ∈ ['#', '<', '>', '?', '\x60', '\x7f'])

def isQueryChar (c : Char) : Bool :=
  0x21 ≤ c.toNat && !(c ∈ ['"', '#', '<', '>', '\x7f'])

def endsAuthority (c : Char) : Bool :=
  c = '/' || c = '?' || c = '#'

/-- What is known of an authority after a part of it. An at sign makes all before it credentials, in
which colons and percent signs have no meaning. -/
structure Scan where
  colons : Nat
  isOpen : Bool
  isClosed : Bool
  hasPercent : Bool
  endsInAt : Bool

def Scan.next (scan : Scan) (c : Char) : Except ParseError Scan :=
  let scan := { scan with endsInAt := false }
  if c = ':' then
    if 8 ≤ scan.colons then .error .invalidAuthority
    else .ok { scan with colons := scan.colons + 1 }
  else if c = '[' then
    if scan.hasPercent || scan.isOpen then .error .invalidAuthority
    else .ok { scan with isOpen := true }
  else if c = ']' then
    if !scan.isOpen || scan.isClosed then .error .invalidAuthority
    else .ok { scan with isClosed := true, colons := 0, hasPercent := false }
  else if c = '@' then .ok { scan with colons := 0, hasPercent := false, endsInAt := true }
  else if c = '%' then .ok { scan with hasPercent := true }
  else if isUriChar c then .ok scan
  else .error .invalidCharacter

def Scan.isComplete (scan : Scan) : Bool :=
  scan.isOpen == scan.isClosed && scan.colons ≤ 1 && !scan.endsInAt && !scan.hasPercent

def readAuthority (s : Text) : Except ParseError (Text × Text) := do
  if s.isEmpty then throw .empty
  let authority := s.takeWhile fun c => !endsAuthority c
  let scan ← authority.foldlM Scan.next ⟨0, false, false, false, false⟩
  if scan.isComplete then return (authority, s.drop authority.length)
  else throw .invalidAuthority

def readPath (s : Text) : Except ParseError (Text × Option Text) :=
  let path := s.takeWhile isPathChar
  match s.drop path.length with
  | [] | '#' :: _ => .ok (path, none)
  | '?' :: rest =>
    let query := rest.takeWhile isQueryChar
    match rest.drop query.length with
    | [] | '#' :: _ => .ok (path, some query)
    | _ => .error .invalidCharacter
  | _ => .error .invalidCharacter

def dropIgnoringCase? (start s : Text) : Option Text :=
  if (s.take start.length).map Char.toLower = start then some (s.drop start.length) else none

def cutScheme (s : Text) : Except ParseError (Option (Text × Text)) :=
  match dropIgnoringCase? "http://".toList s, dropIgnoringCase? "https://".toList s with
  | some rest, _ => .ok (some ("http".toList, rest))
  | none, some rest => .ok (some ("https".toList, rest))
  | none, none =>
    let scheme := s.takeWhile isSchemeChar
    match Text.dropStart? "://".toList (s.drop scheme.length) with
    | some rest =>
      if s.length ≤ 3 then .ok none
      else if 64 < scheme.length then .error .schemeTooLong
      else .ok (some (scheme, rest))
    | none => .ok none

def ofAuthority (authority : Text) : Uri :=
  ⟨none, some authority, [], none⟩

def parse (s : Text) : Except ParseError Uri := do
  if 65534 < (String.ofList s).utf8ByteSize then throw .tooLong
  match s with
  | [] => throw .empty
  | ['*'] => return ⟨none, none, s, none⟩
  | '/' :: _ =>
    let (path, query) ← readPath s
    return ⟨none, none, path, query⟩
  | [_] =>
    let (authority, rest) ← readAuthority s
    if rest.isEmpty then return ofAuthority authority else throw .invalidCharacter
  | _ =>
    match ← cutScheme s with
    | none =>
      let (authority, rest) ← readAuthority s
      if rest.isEmpty then return ofAuthority authority else throw .invalidFormat
    | some (scheme, rest) =>
      let (authority, rest) ← readAuthority rest
      if authority.isEmpty then throw .invalidFormat
      let (path, query) ← readPath rest
      return ⟨some scheme, some authority, if path.isEmpty then ['/'] else path, query⟩

end Uri

end ForwardProxy
