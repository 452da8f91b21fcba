import ForwardProxy.Proofs.Resolution

/-!
This module contains what a decision depends on. Main statement: `Config.resolve_eq_of_same_host`
says that of a request only its host matters, and of a configuration the list and the selected
proxy.
-/

namespace ForwardProxy

open Exclusions (comparable)

namespace Url

variable {u v : Url}

theorem endpoint_host_congr (h : u.host? = v.host?) : u.endpoint.host = v.endpoint.host := by
  unfold endpoint hostName
  rw [h]

theorem hostText_congr (h : u.host? = v.host?) : u.endpoint.hostText = v.endpoint.hostText := by
  unfold Endpoint.hostText
  rw [endpoint_host_congr h]

theorem comparable_canonicalAddress (u : Url) :
    comparable u.canonicalAddress = Text.lower (Text.trimStart u.endpoint.hostText) := by
  unfold canonicalAddress
  rw [Endpoint.toText_eq_hostText_append]
  apply Exclusions.comparable_append_decimal
  intro c hc
  exact isDecimal_of_mem_port hc

end Url

namespace Config

variable {c d : Config} {u v : Url}

theorem allowsProxy_congr (hhost : u.host? = v.host?) (hlist : c.noProxy = d.noProxy) :
    c.allowsProxy u = d.allowsProxy v := by
  unfold allowsProxy
  rw [hlist]
  apply Exclusions.usesProxy_congr u.canonicalAddress_ne_nil v.canonicalAddress_ne_nil
  · rw [Url.map_host_ofText?_canonicalAddress, Url.map_host_ofText?_canonicalAddress]
    rw [Url.hostText_congr hhost]
  · rw [Url.comparable_canonicalAddress, Url.comparable_canonicalAddress]
    rw [Url.hostText_congr hhost]

theorem candidate_of_ne {scheme : Text} (h : scheme ≠ "https".toList) :
    c.candidate scheme = c.httpProxy := by
  unfold candidate
  rw [if_neg fun hs => h hs.1]

theorem candidate_https (h : c.httpsProxy ≠ []) : c.candidate "https".toList = c.httpsProxy := by
  unfold candidate
  rw [if_pos ⟨rfl, by simpa using h⟩]

theorem resolve_congr (hhost : u.host? = v.host?) (hlist : c.noProxy = d.noProxy)
    (hcandidate : c.candidate u.scheme = d.candidate v.scheme) : c.resolve u = d.resolve v := by
  rw [resolve_eq, resolve_eq, hcandidate, allowsProxy_congr hhost hlist]

/-- The last two parts name the configured proxy that does not matter. -/
theorem resolve_eq_of_same_host (hhost : u.host? = v.host?) (hlist : c.noProxy = d.noProxy) :
    (c.candidate u.scheme = d.candidate v.scheme → c.resolve u = d.resolve v) ∧
      (u.scheme ≠ "https".toList → v.scheme ≠ "https".toList → c.httpProxy = d.httpProxy →
        c.resolve u = d.resolve v) ∧
      (u.scheme = "https".toList → v.scheme = "https".toList → c.httpsProxy ≠ [] →
        c.httpsProxy = d.httpsProxy → c.resolve u = d.resolve v) := by
  refine ⟨resolve_congr hhost hlist, ?_, ?_⟩
  · intro hu hv hproxy
    apply resolve_congr hhost hlist
    rw [candidate_of_ne hu, candidate_of_ne hv, hproxy]
  · intro hu hv hne hproxy
    apply resolve_congr hhost hlist
    rw [hu, hv, candidate_https hne, candidate_https (hproxy ▸ hne), hproxy]

theorem resolve_eq_at_two_ports :
    let host := some (Url.Host.domain "%CE%91%CE%A3%5Bx".toList)
    let authority : Url.Authority := ⟨"me".toList, "pass".toList, host, some 9⟩
    let c : Config := ⟨"proxy:3128".toList, [], "x".toList⟩
    let d : Config := ⟨"proxy:3128".toList, "secure:1".toList, "x".toList⟩
    let e : Config := ⟨[], "secure:1".toList, "x".toList⟩
    c.resolve ⟨"socks5".toList, some ⟨[], [], host, none⟩, .segments [], none, none⟩ =
        d.resolve ⟨"gopher".toList, some authority, .segments [[]], some [], some []⟩ ∧
      d.resolve ⟨"https".toList, some ⟨[], [], host, none⟩, .segments [[]], none, none⟩ =
        e.resolve ⟨"https".toList, some authority, .plain [], none, none⟩ := by
  intro host authority c d e
  constructor
  · apply (resolve_eq_of_same_host _ _).1
    · rw [candidate_of_ne (by decide), candidate_of_ne (by decide)]
    · exact Eq.refl host
    · rfl
  · apply (resolve_eq_of_same_host _ _).2.2
    · rfl
    · rfl
    · decide
    · rfl
    · rfl
    · rfl

end Config

end ForwardProxy
