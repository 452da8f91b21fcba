import ForwardProxy.Proofs.Endpoint
import ForwardProxy.Proofs.Exclusions
import ForwardProxy.Resolution

/-!
This module contains the theory of resolutions. Main statements: `Config.resolve_eq` gives the order
of the steps, and `Config.allowsProxy_eq_false_iff` says which requests are excluded.
-/

namespace ForwardProxy

open Exclusions (Excludes comparable isLoopback)

theorem parseProxy_ne_bypassed (proxy : Text) : parseProxy proxy ≠ .bypassed := by
  unfold parseProxy
  cases Reading.ofText proxy with
  | asWritten intercept => exact Decision.noConfusion
  | repaired intercept => exact Decision.noConfusion
  | unusable failure => exact Decision.noConfusion

theorem isDirect_parseProxy (proxy : Text) : (parseProxy proxy).isDirect = false := by
  unfold parseProxy
  cases Reading.ofText proxy with
  | asWritten intercept => rfl
  | repaired intercept => rfl
  | unusable failure => rfl

def IsPlainHost (host : Text) : Prop :=
  ∀ c ∈ host, c.toNat < 0x80 ∧ Text.isBlank c = false ∧ c ∉ [':', '[', ']']

instance (host : Text) : Decidable (IsPlainHost host) :=
  List.decidableBAll _ host

namespace Config

theorem candidate_ne_nil {c : Config} (h : c.httpProxy ≠ []) (scheme : Text) :
    c.candidate scheme ≠ [] := by
  unfold candidate
  split
  · next hproxy => simpa using hproxy.2
  · exact h

def allowsProxy (c : Config) (u : Url) : Bool :=
  (Exclusions.ofText c.noProxy).usesProxy u.canonicalAddress

theorem resolve_eq (c : Config) (u : Url) :
    c.resolve u =
      if c.candidate u.scheme = [] then .notConfigured
      else if c.allowsProxy u then parseProxy (c.candidate u.scheme)
      else .bypassed := by
  unfold resolve resolution allowsProxy Exclusions.usesProxy
  simp only [List.isEmpty_iff]
  split
  · rfl
  · cases (Exclusions.ofText c.noProxy).verdict u.canonicalAddress with
    | proxied => rfl
    | malformed => rfl
    | loopback => rfl
    | wildcard => rfl
    | covered host pattern => rfl

variable {c : Config} {u : Url}

theorem resolve_of_allowsProxy (hcandidate : c.candidate u.scheme ≠ [])
    (h : c.allowsProxy u = true) : c.resolve u = parseProxy (c.candidate u.scheme) := by
  rw [resolve_eq, if_neg hcandidate, if_pos h]

theorem resolve_of_not_allowsProxy (h : c.allowsProxy u = false) :
    c.resolve u = .notConfigured ∨ c.resolve u = .bypassed := by
  rw [resolve_eq, h]
  split
  · exact .inl rfl
  · exact .inr rfl

theorem resolve_eq_bypassed_iff (hcandidate : c.candidate u.scheme ≠ []) :
    c.resolve u = .bypassed ↔ c.allowsProxy u = false := by
  constructor
  · intro h
    cases hallows : c.allowsProxy u with
    | false => rfl
    | true =>
      rw [resolve_of_allowsProxy hcandidate hallows] at h
      exact absurd h (parseProxy_ne_bypassed _)
  · intro h
    rw [resolve_eq, if_neg hcandidate, h]
    rfl

theorem resolve_of_ne_bypassed (hcandidate : c.candidate u.scheme ≠ [])
    (h : c.resolve u ≠ .bypassed) : c.resolve u = parseProxy (c.candidate u.scheme) := by
  rw [Ne, resolve_eq_bypassed_iff hcandidate, Bool.not_eq_false] at h
  exact resolve_of_allowsProxy hcandidate h

theorem isDirect_resolve_iff :
    (c.resolve u).isDirect = true ↔ c.candidate u.scheme = [] ∨ c.allowsProxy u = false := by
  rw [resolve_eq]
  by_cases hcandidate : c.candidate u.scheme = []
  · simp [hcandidate, Decision.isDirect]
  · cases hallows : c.allowsProxy u with
    | false => simp [hcandidate, Decision.isDirect]
    | true => simp [hcandidate, isDirect_parseProxy]

theorem resolve_of_not_isDirect (h : (c.resolve u).isDirect = false) :
    c.resolve u = parseProxy (c.candidate u.scheme) := by
  rw [← Bool.not_eq_true, isDirect_resolve_iff, not_or, Bool.not_eq_false] at h
  exact resolve_of_allowsProxy h.1 h.2

theorem allowsProxy_eq_false_iff (h : u.endpoint.host.any Endpoint.isBracket = false) :
    c.allowsProxy u = false ↔
      isLoopback u.endpoint.host = true ∨ Excludes c.noProxy (comparable u.canonicalAddress) := by
  unfold allowsProxy
  exact Exclusions.usesProxy_eq_false_iff (Url.ofText?_canonicalAddress h)

theorem allowsProxy_eq_false_iff_of_isPlainHost (h : IsPlainHost u.endpoint.host) :
    c.allowsProxy u = false ↔ isLoopback u.endpoint.host = true ∨
      Excludes c.noProxy (u.endpoint.host.map Char.toLower) := by
  have hmem : ∀ d ∈ [':', '[', ']'], d ∉ u.endpoint.host := by
    intro d hd hmem
    exact (h d hmem).2.2 hd
  have hbracket : u.endpoint.host.any Endpoint.isBracket = false := by
    rw [Endpoint.any_isBracket_eq_false_iff]
    exact ⟨hmem _ (by decide), hmem _ (by decide)⟩
  have hcomparable : comparable u.canonicalAddress = u.endpoint.host.map Char.toLower := by
    unfold Url.canonicalAddress
    rw [Endpoint.toText_of_not_mem (hmem _ (by decide))]
    apply Exclusions.comparable_append_port
    · intro d hd
      exact (h d hd).1
    · intro d hd
      exact (h d hd).2.1
    · intro d hd
      exact Url.isDecimal_of_mem_port hd
  rw [allowsProxy_eq_false_iff hbracket, hcomparable]

end Config

end ForwardProxy
