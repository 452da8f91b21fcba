import ForwardProxy.Idna
import ForwardProxy.Percent
import ForwardProxy.Url

/-!
This module contains endpoints, pairs of a host and a port. Requests are compared with exclusions by
the text of their endpoint. Main statements: `hasPort_iff` and `stripPort_append` tell which end of
a text is a port.
-/

namespace ForwardProxy

structure Endpoint where
  host : Text
  port : Text
  deriving DecidableEq, Repr

namespace Endpoint

def isBracket (c : Char) : Bool :=
  c = '[' || c = ']'

def toText (e : Endpoint) : Text :=
  if ':' ∈ e.host then '[' :: e.host ++ ']' :: ':' :: e.port else e.host ++ ':' :: e.port

def unbracket? : Text → Option Text
  | '[' :: rest => if rest.getLast? = some ']' then some rest.dropLast else none
  | _ => none

def host? (s : Text) : Option Text :=
  if s.head? = some '[' then unbracket? s
  else if ':' ∈ s then none
  else some s

/-- An endpoint is written `host:port` or `[host]:port`. -/
def ofText? (s : Text) : Option Endpoint :=
  match Text.cutLast? ':' s with
  | none => none
  | some (before, port) =>
    match host? before with
    | none => none
    | some host => if host.any isBracket || port.any isBracket then none else some ⟨host, port⟩

def hasPort (s : Text) : Bool :=
  match Text.cutLast? ':' s with
  | none => false
  | some (_, after) => !(']' ∈ after)

def stripPort (s : Text) : Text :=
  match Text.cutLast? ':' s with
  | none => s
  | some (before, after) => if ']' ∈ after then s else before

theorem hasPort_iff {s : Text} :
    hasPort s = true ↔ ∃ a b, s = a ++ ':' :: b ∧ ':' ∉ b ∧ ']' ∉ b := by
  unfold hasPort
  cases h : Text.cutLast? ':' s with
  | none =>
    have := Text.cutLast?_eq_none_iff.1 h
    simp only [Bool.false_eq_true, false_iff]
    rintro ⟨a, b, rfl, -⟩
    simp at this
  | some p =>
    obtain ⟨before, after⟩ := p
    have hs := Text.cutLast?_eq_some_iff.1 h
    simp only [Bool.not_eq_true', decide_eq_false_iff_not]
    constructor
    · exact fun hb => ⟨before, after, hs.1, hs.2, hb⟩
    · rintro ⟨a, b, hab, hc, hb⟩
      have := Text.cutLast?_eq_some_iff.2 ⟨hab, hc⟩
      rw [h] at this
      simp only [Option.some.injEq, Prod.mk.injEq] at this
      rwa [this.2]

theorem stripPort_append {a b : Text} (hc : ':' ∉ b) (hb : ']' ∉ b) :
    stripPort (a ++ ':' :: b) = a := by
  simp [stripPort, Text.cutLast?_eq_some_iff.2 ⟨rfl, hc⟩, hb]

theorem stripPort_of_not_hasPort {s : Text} (h : hasPort s = false) : stripPort s = s := by
  unfold hasPort at h
  unfold stripPort
  split
  · rfl
  · next before after hcut =>
    simp only [hcut, Bool.not_eq_false', decide_eq_true_eq] at h
    exact if_pos h

end Endpoint

namespace Url

def impliedPort (scheme : Text) : Text :=
  if scheme = "http".toList then "80".toList
  else if scheme = "https".toList then "443".toList
  else if scheme = "socks5".toList then "1080".toList
  else []

def hostName (u : Url) : Text :=
  match u.host? with
  | none => []
  | some (.domain name) => (Percent.decode? name).getD name
  | some (.ipv4 address) => address.toText
  | some (.ipv6 address) => address.toMixedText

def asciiName? (name : Text) : Option Text :=
  if Text.isAscii name then some name else Idna.toAscii? (fun _ => false) name

def endpoint (u : Url) : Endpoint where
  host := (asciiName? u.hostName).getD u.hostName
  port := (u.port?.map fun n => Text.ofNat n.toNat).getD (impliedPort u.scheme)

/-- The address by which a request is looked up in exclusions. -/
def canonicalAddress (u : Url) : Text :=
  u.endpoint.toText

end Url

end ForwardProxy
