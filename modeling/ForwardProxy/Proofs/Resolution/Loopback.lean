import ForwardProxy.Proofs.Ip.Loopback
import ForwardProxy.Proofs.Resolution

/-!
This module contains what becomes of requests to this machine. Main statements:
`Config.resolve_of_address` says that among the hosts given by address exactly the loopback
addresses are kept from every proxy, and `Config.isDirect_resolve_localhost_iff` in which spellings
the name of this machine is.
-/

namespace ForwardProxy

open Exclusions (Excludes comparable)

namespace Url

def Host.ofIp : Ip → Host
  | .v4 x => .ipv4 x
  | .v6 x => .ipv6 x

variable {u : Url} {ip : Ip}

theorem hostName_ofIp (hhost : u.host? = some (Host.ofIp ip)) : u.hostName = ip.toText := by
  unfold hostName
  rw [hhost]
  cases ip with
  | v4 x => rfl
  | v6 x => rfl

theorem endpoint_host_ofIp (hhost : u.host? = some (Host.ofIp ip)) :
    u.endpoint.host = ip.toText := by
  have hname := hostName_ofIp hhost
  rw [endpoint_host_of_isAscii]
  · exact hname
  · rw [hname, Text.isAscii_iff]
    intro c hc
    exact Ip.toNat_of_mem_toText hc

theorem any_isBracket_ofIp (hhost : u.host? = some (Host.ofIp ip)) :
    u.endpoint.host.any Endpoint.isBracket = false := by
  rw [endpoint_host_ofIp hhost, Endpoint.any_isBracket_eq_false_iff]
  exact ⟨Ip.not_mem_toText rfl, Ip.not_mem_toText rfl⟩

end Url

theorem Exclusions.isLoopback_toText (ip : Ip) :
    Exclusions.isLoopback ip.toText = ip.isLoopback := by
  have hne : ip.toText ≠ "localhost".toList := by
    intro h
    have hl : 'l' ∉ ip.toText := Ip.not_mem_toText rfl
    rw [h] at hl
    exact hl (by decide)
  unfold isLoopback
  rw [Ip.ofText?_toText, Option.any_some, beq_eq_false_iff_ne.2 hne, Bool.false_or]

namespace Config

variable {c : Config} {u : Url}

theorem allowsProxy_ofIp_eq_false_iff {ip : Ip} (hhost : u.host? = some (Url.Host.ofIp ip)) :
    c.allowsProxy u = false ↔
      ip.IsLocal ∨ Excludes c.noProxy (comparable u.canonicalAddress) := by
  rw [allowsProxy_eq_false_iff (Url.any_isBracket_ofIp hhost)]
  rw [Url.endpoint_host_ofIp hhost, Exclusions.isLoopback_toText, Ip.isLoopback_iff_isLocal]

theorem resolve_of_address {ip : Ip} (hhost : u.host? = some (Url.Host.ofIp ip)) :
    (ip.IsLocal → c.resolve u = .notConfigured ∨ c.resolve u = .bypassed) ∧
      (¬ ip.IsLocal → c.noProxy ≠ ['*'] →
        (Exclusions.ofText c.noProxy).patterns = [] → c.candidate u.scheme ≠ [] →
        c.resolve u ≠ .bypassed) := by
  constructor
  · intro hlocal
    apply resolve_of_not_allowsProxy
    exact (allowsProxy_ofIp_eq_false_iff hhost).2 (.inl hlocal)
  · intro hlocal hwildcard hpatterns hcandidate
    rw [Ne, resolve_eq_bypassed_iff hcandidate, allowsProxy_ofIp_eq_false_iff hhost, not_or]
    exact ⟨hlocal, Exclusions.not_excludes hwildcard hpatterns⟩

theorem resolve_mapped_loopback :
    (let u : Url := ⟨"http".toList, some ⟨[], [], some (.ipv6 (Ip.V4.mapped ⟨127, 0, 0, 1⟩)), none⟩,
      .segments [[]], none, none⟩
    resolve ⟨"http://proxy:99999".toList, [], []⟩ u = .notConfigured ∨
      resolve ⟨"http://proxy:99999".toList, [], []⟩ u = .bypassed) ∧
    resolve ⟨"proxy:3128".toList, [], " , :80".toList⟩
      ⟨"http".toList, some ⟨[], [], some (.ipv4 ⟨10, 0, 0, 1⟩), none⟩, .segments [[]], none, none⟩ ≠
        .bypassed := by
  have hfar : ¬ Ip.IsLocal (.v4 ⟨10, 0, 0, 1⟩) := by decide
  constructor
  · apply (resolve_of_address _).1 (.mapped 0 0 1)
    rfl
  · apply (resolve_of_address _).2 hfar
    · decide
    · decide +kernel
    · decide
    · rfl

end Config

namespace Exclusions

variable {host : Text}

theorem isPlainHost_localhost (h : host.map Char.toLower = "localhost".toList) :
    IsPlainHost host := by
  intro c hc
  have hlower : c.toLower ∈ "localhost".toList := by
    rw [← h]
    exact List.mem_map_of_mem hc
  have hascii : c.toNat < 0x80 := by
    have hname : ∀ c ∈ "localhost".toList, c.toNat < 0x80 := Text.isAscii_iff.1 (by decide)
    exact Text.ascii_of_toLower (hname _ hlower)
  refine ⟨hascii, ?_⟩
  apply Text.forall_ascii (p := fun c => c.toLower ∈ "localhost".toList →
    Text.isBlank c = false ∧ c ∉ [':', '[', ']']) _ hascii hlower
  decide

theorem ofText?_localhost (h : host.map Char.toLower = "localhost".toList) :
    Ip.ofText? host = none := by
  cases host with
  | nil => contradiction
  | cons c host =>
    have hl : c.toLower = 'l' := by
      rw [List.map_cons] at h
      exact (List.cons.inj h).1
    have hascii := (isPlainHost_localhost h c List.mem_cons_self).1
    apply Ip.ofText?_eq_none List.mem_cons_self
    apply Text.forall_ascii (p := fun c => c.toLower = 'l' → Ip.isAddressChar c = false) _ hascii hl
    decide

theorem isLoopback_localhost_iff (h : host.map Char.toLower = "localhost".toList) :
    isLoopback host = true ↔ host = "localhost".toList := by
  unfold isLoopback
  rw [ofText?_localhost h, Option.any_none, Bool.or_false, beq_iff_eq]

end Exclusions

namespace Config

variable {c : Config} {u : Url}

theorem isDirect_resolve_localhost_iff
    (hname : u.endpoint.host.map Char.toLower = "localhost".toList) :
    ((c.resolve u).isDirect = true ↔
      c.candidate u.scheme = [] ∨ u.endpoint.host = "localhost".toList ∨
        Excludes c.noProxy "localhost".toList) ∧
      ((c.resolve u).isDirect = false → c.resolve u = parseProxy (c.candidate u.scheme)) := by
  have hplain := Exclusions.isPlainHost_localhost hname
  have hallows : c.allowsProxy u = false ↔
      u.endpoint.host = "localhost".toList ∨ Excludes c.noProxy "localhost".toList := by
    rw [allowsProxy_eq_false_iff_of_isPlainHost hplain, hname]
    rw [Exclusions.isLoopback_localhost_iff hname]
  constructor
  · rw [isDirect_resolve_iff, hallows]
  · intro hdirect
    rw [← Bool.not_eq_true, isDirect_resolve_iff, not_or, Bool.not_eq_false] at hdirect
    exact resolve_of_allowsProxy hdirect.1 hdirect.2

theorem not_isDirect_resolve_localhost_in_capitals :
    (let u : Url := ⟨"socks5".toList, some ⟨[], [], some (.domain "LOCALHOST".toList), none⟩,
      .segments [], none, none⟩
    Url.parse "socks5://LOCALHOST".toList = .ok u ∧
      u.endpoint.host.map Char.toLower = "localhost".toList ∧
      ¬ (resolve ⟨"http://proxy:3128".toList, [], []⟩ u).isDirect = true) := by
  refine ⟨by decide +kernel, by decide +kernel, ?_⟩
  rw [(isDirect_resolve_localhost_iff (by decide +kernel)).1]
  simp only [not_or]
  refine ⟨by decide, by decide +kernel, ?_⟩
  apply Exclusions.not_excludes
  · decide
  · decide +kernel

end Config

end ForwardProxy
