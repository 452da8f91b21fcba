import ForwardProxy.Percent
import ForwardProxy.Url

/-!
This module contains the reading of paths: steps to the same or to the parent directory are taken
while a path is read, and the drive letters of `file` URLs are told from other segments.
-/

namespace ForwardProxy.Url

def isHere (segment : Text) : Bool :=
  segment.map Char.toLower ∈ [".".toList, "%2e".toList]

def isParent (segment : Text) : Bool :=
  segment.map Char.toLower ∈ ["..".toList, ".%2e".toList, "%2e.".toList, "%2e%2e".toList]

def isDrive : Text → Bool
  | [letter, c] => letter.isAlpha && (c = ':' || c = '|')
  | _ => false

def isRooted (segment : Text) : Bool :=
  isDrive segment || (isDrive (segment.take 2) && (segment.drop 2).head? = some '\\')

def leave : List Text → List Text
  | [] => []
  | segment :: segments => if isRooted segment then segment :: segments else segments

/-- Takes the steps of a path. After a step at the end, the path ends in a slash. -/
def walk (hasDrives : Bool) (taken : List Text) : List Text → List Text
  | [] => taken.reverse
  | segment :: rest =>
    if isParent segment || isHere segment then
      let taken := if isParent segment then leave taken else taken
      walk hasDrives (if rest.isEmpty then [] :: taken else taken) rest
    else if hasDrives && taken.isEmpty && isDrive segment then
      walk hasDrives ((segment.take 1 ++ [':']) :: taken) rest
    else walk hasDrives (Percent.encode keepsInPath segment :: taken) rest

def isSlash (c : Char) : Bool :=
  c = '/' || c = '\\'

def genericPath (s : Text) : Path :=
  .segments (walk false [] (s.splitOn '/'))

def serverPath (s : Text) : Path :=
  .segments (walk false [] (s.splitOnP isSlash))

def fileSegments (s : Text) : List Text :=
  walk true [] (s.splitOnP isSlash)

def dropEmpty (segments : List Text) : List Text :=
  match segments.dropWhile List.isEmpty with
  | [] => [[]]
  | rest => rest

def dropSlash : Text → Text
  | [] => []
  | c :: rest => if isSlash c then rest else c :: rest

structure Tail where
  path : Text
  query : Option Text
  fragment : Option Text

def Tail.cut (s : Text) : Tail :=
  let (front, fragment) :=
    match Text.cutFirst? '#' s with
    | some (front, fragment) => (front, some fragment)
    | none => (s, none)
  match Text.cutFirst? '?' front with
  | some (path, query) => ⟨path, some query, fragment⟩
  | none => ⟨front, none, fragment⟩

end ForwardProxy.Url
