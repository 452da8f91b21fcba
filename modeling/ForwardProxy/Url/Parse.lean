import ForwardProxy.Url.Authority
import ForwardProxy.Url.Path

/-!
This module contains the reading of URLs, by the kind of their scheme. Blanks and controls at the
ends of a text do not count, and neither do tabs and line breaks anywhere.
-/

namespace ForwardProxy.Url

/-- Schemes of servers imply a host and a port. Of the others only `file` has rules of its own. -/
inductive SchemeKind
  | server (defaultPort : UInt16)
  | file
  | generic
  deriving DecidableEq, Repr

def servers : List (Text × UInt16) :=
  [("http".toList, 80), ("https".toList, 443), ("ws".toList, 80), ("wss".toList, 443),
    ("ftp".toList, 21)]

def schemeKind (scheme : Text) : SchemeKind :=
  match servers.lookup scheme with
  | some port => .server port
  | none => if scheme = "file".toList then .file else .generic

def isSchemeChar (c : Char) : Bool :=
  c.isAlphanum || c = '+' || c = '-' || c = '.'

def isScheme : Text → Bool
  | [] => false
  | c :: rest => c.isAlpha && rest.all isSchemeChar

def cutScheme? (s : Text) : Option (Text × Text) :=
  match Text.cutFirst? ':' s with
  | some (scheme, rest) => if isScheme scheme then some (scheme.map Char.toLower, rest) else none
  | none => none

def isMargin (c : Char) : Bool :=
  c.toNat ≤ 0x20

def clean (s : Text) : Text :=
  let trimmed := ((s.dropWhile isMargin).reverse.dropWhile isMargin).reverse
  trimmed.filter fun c => !(c ∈ ['\t', '\n', '\r'])

def assemble (scheme : Text) (authority : Option Authority) (path : Path)
    (keepsInQuery : Char → Bool) (tail : Tail) : Url where
  scheme
  authority
  path
  query := tail.query.map (Percent.encode keepsInQuery)
  fragment := tail.fragment.map (Percent.encode keepsInFragment)

def endsAuthority (c : Char) : Bool :=
  c = '/' || c = '?' || c = '#'

def parseServer (scheme : Text) (defaultPort : UInt16) (s : Text) : Except ParseError Url := do
  let s := s.dropWhile isSlash
  let isPart (c : Char) := !(endsAuthority c || c = '\\')
  let authority ← serverAuthority defaultPort (s.takeWhile isPart)
  let tail := Tail.cut (s.dropWhile isPart)
  return assemble scheme authority (serverPath (dropSlash tail.path)) keepsInServerQuery tail

def assembleFile (host : Option Host) (s : Text) : Url :=
  let tail := Tail.cut s
  let segments := fileSegments tail.path
  let host := if segments.head?.any isDrive then none else host
  let authority := { username := [], password := [], host, port := none }
  assemble "file".toList (some authority) (.segments (dropEmpty segments)) keepsInServerQuery tail

def fileHost (s : Text) : Except ParseError (Option Host) :=
  if s.isEmpty then .ok none
  else do
    let host ← serverHost s
    return if host = .domain "localhost".toList then none else some host

/-- A `file` URL. Only two slashes make a host of what follows, unless it is a drive. -/
def parseFile (s : Text) : Except ParseError Url :=
  match s with
  | c :: d :: rest =>
    if isSlash c && isSlash d then do
      let isPart (c : Char) := !(endsAuthority c || c = '\\')
      let host := rest.takeWhile isPart
      if isDrive host then return assembleFile none rest
      else return assembleFile (← fileHost host) (dropSlash (rest.dropWhile isPart))
    else return assembleFile none (dropSlash s)
  | _ => return assembleFile none (dropSlash s)

def pathAfterAuthority : Text → Path
  | [] => .segments []
  | c :: rest => genericPath (if c = '/' then rest else c :: rest)

def parseGeneric (scheme : Text) (s : Text) : Except ParseError Url :=
  match s with
  | '/' :: '/' :: rest => do
    let isPart (c : Char) := !endsAuthority c
    let after := rest.dropWhile isPart
    let (authority, cutOff) ← genericAuthority (rest.takeWhile isPart) after.isEmpty
    let tail := Tail.cut (cutOff ++ after)
    return assemble scheme authority (pathAfterAuthority tail.path) keepsInQuery tail
  | '/' :: rest =>
    let tail := Tail.cut rest
    return assemble scheme none (genericPath tail.path) keepsInQuery tail
  | _ =>
    let tail := Tail.cut s
    return assemble scheme none (.plain (Percent.encode keepsInPlain tail.path)) keepsInQuery tail

def parse (s : Text) : Except ParseError Url :=
  match cutScheme? (clean s) with
  | none => .error .missingBase
  | some (scheme, rest) =>
    match schemeKind scheme with
    | .server defaultPort => parseServer scheme defaultPort rest
    | .file => parseFile rest
    | .generic => parseGeneric scheme rest

end ForwardProxy.Url
