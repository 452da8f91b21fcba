import ForwardProxy.Config
import ForwardProxy.Json.Skip
import ForwardProxy.Text.Quoted

/-!
This module contains the JSON form of configurations. One is written as an object of three strings.
It is read from an object, in which strings may be missing and other members are skipped, or from a
list of the three strings, of which the last ones may be missing. The first fault ends the reading.
-/

namespace ForwardProxy.Config

open Json (next? readNumeral? readString? skipValue?)

namespace Field

def key : Field → Text
  | .httpProxy => "http_proxy".toList
  | .httpsProxy => "https_proxy".toList
  | .noProxy => "no_proxy".toList

def ofKey? (key : Text) : Option Field :=
  all.find? (·.key == key)

end Field

def toJson (c : Config) : Text :=
  let member (field : Field) := Json.quote field.key ++ ':' :: Json.quote (c.get field)
  '\x7b' :: [','].intercalate (Field.all.map member) ++ ['\x7d']

inductive Misplaced
  | null
  | truth (isTrue : Bool)
  | number (x : Json.Number)
  | string (s : Text)
  | list
  | object
  deriving DecidableEq, Repr

def Misplaced.message : Misplaced → Text
  | .null => "null".toList
  | .truth true => "boolean `true`".toList
  | .truth false => "boolean `false`".toList
  | .number (.whole n) => "integer `".toList ++ (Json.Number.whole n).toText ++ ['\x60']
  | .number x => "floating point `".toList ++ x.toText ++ ['\x60']
  | .string s => "string ".toList ++ Text.quote s
  | .list => "sequence".toList
  | .object => "map".toList

inductive Expected
  | string
  | config
  deriving DecidableEq, Repr

def Expected.message : Expected → Text
  | .string => "a string".toList
  | .config => "struct ProxyConfig".toList

inductive Misfit
  | wrongType (found : Misplaced) (expected : Expected)
  | duplicate (field : Field)
  deriving DecidableEq, Repr

def Misfit.message : Misfit → Text
  | .wrongType found expected =>
    "invalid type: ".toList ++ found.message ++ ", expected ".toList ++ expected.message
  | .duplicate field => "duplicate field `".toList ++ field.key ++ ['\x60']

inductive JsonError
  | malformed
  | misfit (reason : Misfit)
  deriving DecidableEq, Repr

def misplaced? (s : Text) : Option Misplaced :=
  match s with
  | '[' :: _ => some .list
  | '\x7b' :: _ => some .object
  | '"' :: rest => (readString? rest).map fun (text, _) => .string text
  | _ =>
    if "null".toList.isPrefixOf s then some .null
    else if "true".toList.isPrefixOf s then some (.truth true)
    else if "false".toList.isPrefixOf s then some (.truth false)
    else (readNumeral? s).bind fun (x, _) => x.value?.map .number

def mismatch (s : Text) (expected : Expected) : JsonError :=
  match misplaced? s with
  | some found => .misfit (.wrongType found expected)
  | none => .malformed

def readValue (s : Text) : Except JsonError (Text × Text) :=
  match next? s with
  | none => .error .malformed
  | some ('"', rest) =>
    match readString? rest with
    | some (value, rest) => .ok (value, rest)
    | none => .error .malformed
  | some (c, rest) => .error (mismatch (c :: rest) .string)

structure Draft where
  config : Config := {}
  fields : List Field := []
  deriving DecidableEq, Repr

def Draft.put (d : Draft) (field : Field) (value : Text) : Draft :=
  ⟨d.config.put field value, field :: d.fields⟩

def readMember (d : Draft) (s : Text) : Except JsonError (Draft × Text) :=
  match readString? s with
  | none => .error .malformed
  | some (key, rest) =>
    match Field.ofKey? key with
    | some field =>
      if field ∈ d.fields then .error (.misfit (.duplicate field))
      else
        match next? rest with
        | some (':', rest) =>
          match readValue rest with
          | .ok (value, rest) => .ok (d.put field value, rest)
          | .error e => .error e
        | _ => .error .malformed
    | none =>
      match next? rest with
      | some (':', rest) =>
        match skipValue? [] rest with
        | some rest => .ok (d, rest)
        | none => .error .malformed
      | _ => .error .malformed

theorem readValue_length {s value rest : Text} (h : readValue s = .ok (value, rest)) :
    rest.length < s.length := by
  unfold readValue at h
  split at h
  · simp at h
  · rename_i hn
    have := Json.next?_length hn
    split at h
    · rename_i hs
      have := Json.readString?_length hs
      simp only [Except.ok.injEq, Prod.mk.injEq] at h
      rw [← h.2]
      omega
    · simp at h
  · simp at h

theorem readMember_length {d d' : Draft} {s rest : Text} (h : readMember d s = .ok (d', rest)) :
    rest.length < s.length := by
  unfold readMember at h
  split at h
  · simp at h
  · rename_i hs
    have := Json.readString?_length hs
    split at h
    · split at h
      · simp at h
      · split at h
        · rename_i hn
          have := Json.next?_length hn
          split at h
          · rename_i hv
            have := readValue_length hv
            simp only [Except.ok.injEq, Prod.mk.injEq] at h
            rw [← h.2]
            omega
          · simp at h
        · simp at h
    · split at h
      · rename_i hn
        have := Json.next?_length hn
        split at h
        · rename_i hv
          have := Json.skipValue?_length hv
          simp only [Except.ok.injEq, Prod.mk.injEq] at h
          rw [← h.2]
          omega
        · simp at h
      · simp at h

def readMembers (d : Draft) (s : Text) : Except JsonError (Draft × Text) :=
  match h : next? s with
  | some ('\x7d', rest) => .ok (d, rest)
  | some (',', rest) =>
    have := Json.next?_length h
    match h : next? rest with
    | some ('"', rest) =>
      have := Json.next?_length h
      match h : readMember d rest with
      | .ok (d, rest) =>
        have := readMember_length h
        readMembers d rest
      | .error e => .error e
    | _ => .error .malformed
  | _ => .error .malformed
termination_by s.length

def readObject (s : Text) : Except JsonError (Config × Text) :=
  match next? s with
  | some ('\x7d', rest) => .ok ({}, rest)
  | some ('"', rest) => do
    let (d, rest) ← readMember {} rest
    let (d, rest) ← readMembers d rest
    return (d.config, rest)
  | _ => .error .malformed

def nextElement (isFirst : Bool) (s : Text) : Except JsonError (Bool × Text) :=
  match next? s with
  | none => .error .malformed
  | some (']', rest) => .ok (false, rest)
  | some (c, rest) =>
    if isFirst then .ok (true, c :: rest)
    else if c = ',' then
      match next? rest with
      | none | some (']', _) => .error .malformed
      | some (d, rest) => .ok (true, d :: rest)
    else .error .malformed

def readElements (c : Config) (isFirst : Bool) :
    List Field → Text → Except JsonError (Config × Text)
  | [], s => do
    let (hasMore, rest) ← nextElement isFirst s
    if hasMore then .error .malformed else .ok (c, rest)
  | field :: fields, s => do
    let (hasMore, rest) ← nextElement isFirst s
    if hasMore then
      let (value, rest) ← readValue rest
      readElements (c.put field value) false fields rest
    else return (c, rest)

def ofJson (s : Text) : Except JsonError Config := do
  match next? s with
  | none => throw .malformed
  | some (c, rest) =>
    let (config, rest) ←
      if c = '\x7b' then readObject rest
      else if c = '[' then readElements {} true Field.all rest
      else throw (mismatch (c :: rest) .config)
    if (next? rest).isNone then return config else throw .malformed

end ForwardProxy.Config
